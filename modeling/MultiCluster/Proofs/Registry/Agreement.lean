import MultiCluster.Proofs.Registry.Keeper
import MultiCluster.Proofs.Store.Lookup
import Mathlib.Data.List.Forall2
import Mathlib.Data.List.Perm.Basic

/-! A registry that is kept by an API server answers as one that keeps its members itself. -/
namespace MultiCluster

namespace Registry

open Json (given)

/-- A member that an object describes, by whatever reads objects. When it was created does not
count. -/
structure Stored.Describes (o : Stored) (m : Member) : Prop where
  name : o.name = m.id
  spec : Registration.ofJson o.spec = .ok m.registration
  status : o.status = none ∧ m.status = .initial ∨
    ∃ members, o.status = some (.obj members) ∧ Status.ofJson (.obj members) = .ok m.status

namespace Stored.Describes

variable {o : Stored} {m : Member}

private theorem read_metadata {j known : Json} {name : String}
    (hk : Kube.Shape.metadata.read j = some known) (hn : known.textAt? ["name"] = some name) :
    ∃ at?, Member.metadataOf j = .ok (name, at?) := by
  simp only [Member.metadataOf, hk, Json.textAt, hn]
  exact ⟨_, rfl⟩

private theorem read_status (h : o.Describes m) : ∃ status, (match o.status with
      | none => .ok none
      | some j => Json.Decode.nullable Status.ofJson j) =
        (.ok status : Except Json.Fault (Option Status)) ∧ status.getD .initial = m.status := by
  rcases h.status with ⟨ho, hm⟩ | ⟨members, ho, hr⟩
  · exact ⟨none, by rw [ho], hm.symm⟩
  · refine ⟨some m.status, ?_, rfl⟩
    rw [ho]
    exact congrArg (Except.map some) hr

/-- An object describes the same with its members in another order. -/
theorem reorder {o' : Stored} (h : o'.Describes m) (hr : o.Reorders o') : o.Describes m := by
  refine ⟨hr.name.trans h.name, Registration.respects_ofJson _ _ _ hr.spec h.spec, ?_⟩
  have hst := hr.status
  obtain ⟨ho, hm⟩ | ⟨members, ho, hs⟩ := h.status
  · rw [ho] at hst
    exact .inl ⟨Option.toList_eq_nil_iff.1 (List.forall₂_nil_right_iff.1 hst), hm⟩
  · rw [ho] at hst
    obtain ⟨j, he, hj⟩ := Json.exists_singleton hst
    rw [Option.toList_eq_singleton_iff] at he
    obtain ⟨xs, rfl, -⟩ := hj.obj_right
    exact .inr ⟨xs, he, Status.respects_ofJson _ _ _ hj hs⟩

/-- Whatever shows an object is read as a member that it describes. -/
theorem ofResource (h : o.Describes m) {j : Json} (hj : o.IsShown j) :
    ∃ at?, Member.ofResource j = .ok { m with createdAt := at? } := by
  obtain ⟨members, metadata, known, rfl, hmd, hk, hn, hsp, hst⟩ := hj
  obtain ⟨at?, hat⟩ := read_metadata hk hn
  obtain ⟨spec, hgs, hspec⟩ := Json.exists_singleton hsp
  obtain ⟨shown, hgt, -⟩ := Json.exists_toList hst
  rw [hgt] at hst
  have h : Describes ⟨o.name, spec, shown⟩ m := h.reorder ⟨rfl, hspec, hst⟩
  obtain ⟨status, hs, hms⟩ := h.read_status
  have hvs : [["metadata"], ["spec"], ["status"]].mapM (Json.Decode.memberOf members) =
      .ok [some metadata, some spec, shown] := by
    simp only [List.mapM_cons, List.mapM_nil, Json.Decode.memberOf_of_given hmd,
      Json.Decode.memberOf_of_given hgs, Json.Decode.memberOf_eq_ok_iff.2 hgt]
    rfl
  refine ⟨at?, ?_⟩
  rw [Member.ofResource, Json.Decode.record_obj hvs]
  refine bind_eq_ok_iff.2 ⟨_, (Json.Decode.required_eq rfl _ _).trans hat, ?_⟩
  refine bind_eq_ok_iff.2 ⟨_, (Json.Decode.required_eq rfl _ _).trans h.spec, ?_⟩
  refine bind_eq_ok_iff.2 ⟨_, (Json.Decode.nullable_eq rfl _ _ _).trans hs, ?_⟩
  rw [hms, h.name]
  rfl

/-- An object that was created describes the new member. -/
theorem new (id : String) (r : Registration) (createdAt : Option String) :
    Describes ⟨id, r.toJson, none⟩ (.new id r createdAt) :=
  ⟨rfl, rfl, .inl ⟨rfl, rfl⟩⟩

/-- A patch that is merged into the object is applied to the member in place. -/
theorem patched (h : o.Describes m) {p : Status.Patch} (hp : p.Fits) :
    (o.patched p.document).Describes { m with status := p.apply m.status } := by
  rw [patched_document]
  refine ⟨h.name, h.spec, .inr ⟨_, rfl, ?_⟩⟩
  rcases h.status with ⟨ho, hm⟩ | ⟨members, ho, hr⟩
  · rw [ho, hm]
    exact Status.Patch.ofJson_merged hp rfl
  · rw [ho]
    exact Status.Patch.ofJson_merged hp hr

end Stored.Describes

section Replies

variable {limit : Span} {r : Kube.Reply}

/-- A value that is shown is read, whatever comes of that. -/
theorem Shows.readWithin_eq {α : Type} {P : Json → Prop} (h : Shows limit P r) (what : String)
    (decoder : Json.Decoder α) :
    ∃ j, P j ∧ r.readWithin limit what decoder =
      (decoder j).mapError fun _ => .transport Kube.undecodableText := by
  obtain ⟨status, body, delay, j, rfl, hs, ht, hb, hj⟩ := h
  have he : Http.isError status = false := by
    simp only [Http.isSuccess, Http.isError, Bool.and_eq_true, Bool.and_eq_false_iff,
      decide_eq_true_eq, decide_eq_false_iff_not] at hs ⊢
    omega
  refine ⟨j, hj, ?_⟩
  rw [Kube.Reply.readWithin, if_pos ht, Kube.Reply.read, he, hb, Option.map_some]
  cases decoder j <;> rfl

/-- A value that is shown and can be read is what comes of the reply. -/
theorem Shows.readWithin {α : Type} {P : Json → Prop} (h : Shows limit P r) (what : String)
    (decoder : Json.Decoder α) :
    ∃ j, P j ∧ ∀ x, decoder j = .ok x → r.readWithin limit what decoder = .ok x := by
  obtain ⟨j, hj, hr⟩ := h.readWithin_eq what decoder
  exact ⟨j, hj, fun x hx => by rw [hr, hx]; rfl⟩

/-- A refusal is read with its code. -/
theorem Refuses.readWithin {α : Type} {code : Nat} (h : Refuses limit code r)
    (hc : Http.isError code = true) (what : String) (decoder : Json.Decoder α) :
    ∃ e : Error, r.readWithin limit what decoder = .error e ∧ e.refusalCode? = some code := by
  obtain ⟨body, delay, rfl, ht, hr⟩ := h
  refine ⟨.refused (Kube.refusal code body), ?_, ?_⟩
  · rw [Kube.Reply.readWithin, if_pos ht, Kube.Reply.read, if_pos hc]
  · simp only [Error.refusalCode?, Option.some.injEq, Kube.refusal]
    split
    · exact hr _ ‹_›
    · rfl

end Replies

section Lists

/-- The member without the time of its creation. -/
def timeless (m : Member) : Member := { m with createdAt := none }

/-- Objects that are shown are read as the members that they describe. -/
private theorem read_items {os : List Stored} {ms : List Member} {items : List Json}
    (hm : List.Forall₂ Stored.Describes os ms) (hj : List.Forall₂ Stored.IsShown os items) :
    ∃ xs, items.mapM Member.ofResource = .ok xs ∧ xs.map timeless = ms.map timeless := by
  induction hm generalizing items with
  | nil =>
    obtain rfl := List.forall₂_nil_left_iff.1 hj
    exact ⟨[], rfl, rfl⟩
  | cons h _ ih =>
    obtain ⟨j, js, hshown, hjs, rfl⟩ := List.forall₂_cons_left_iff.1 hj
    obtain ⟨at?, hx⟩ := h.ofResource hshown
    obtain ⟨xs, hxs, he⟩ := ih hjs
    refine ⟨_ :: xs, by rw [List.mapM_cons, hx, hxs]; rfl, ?_⟩
    rw [List.map_cons, List.map_cons, he]
    rfl

/-- A list of objects is read item by item. -/
theorem IsList.listOf {os : List Stored} {ms : List Member} {j : Json}
    (hm : List.Forall₂ Stored.Describes os ms) (hj : IsList os j) :
    ∃ xs, Kube.listOf Member.ofResource j = .ok xs ∧ xs.map timeless = ms.map timeless := by
  obtain ⟨members, items, rfl, hr, hi, hmd, hs⟩ := hj
  obtain ⟨xs, hx, he⟩ := read_items hm hs
  refine ⟨xs, ?_, he⟩
  rw [Json.isReadable, Json.areMembersReadable_iff] at hr
  obtain ⟨others, ho⟩ : ∃ js, (members.filter fun m => m.1 ≠ "metadata" && m.1 ≠ "items").mapM
      (fun m => Json.Decode.any m.2) = .ok js :=
    mapM_eq_ok_iff.2 fun m hm => ⟨m.2, by rw [Json.Decode.any, if_pos (hr m (List.mem_filter.1 hm).1)]⟩
  obtain ⟨md, hv, hmd⟩ : ∃ md : Option Json, given "metadata" members = md.toList ∧
      ∀ j ∈ md, (Kube.Shape.listMetadata.read j).isSome := by
    rcases hmd with h | ⟨j, h, hj⟩
    · exact ⟨none, h, by simp⟩
    · exact ⟨some j, h, by simpa using hj⟩
  have hvs : [["metadata"], ["items"]].mapM (Json.Decode.memberOf members) =
      .ok [md, some (.arr items)] := by
    simp only [List.mapM_cons, List.mapM_nil, Json.Decode.memberOf_of_given hi,
      Json.Decode.memberOf_eq_ok_iff.2 hv]
    rfl
  rw [Kube.listOf]
  refine bind_eq_ok_iff.2 ⟨others, ho, bind_eq_ok_iff.2 ⟨some xs, ?_, rfl⟩⟩
  obtain ⟨known, hk⟩ : ∃ known, Json.Decode.Fields.optional ⟨[md, some (.arr items)], none⟩ 0
      (Kube.shaped Kube.Shape.listMetadata) = .ok known := by
    cases md with
    | none => exact ⟨none, rfl⟩
    | some j =>
      obtain ⟨known, hk⟩ := Option.isSome_iff_exists.1 (hmd j rfl)
      exact ⟨some known, by simp [Json.Decode.Fields.optional, Json.Decode.Fields.value?,
        Kube.shaped, hk, Except.map]⟩
  rw [Json.Decode.record_obj hvs]
  refine bind_eq_ok_iff.2 ⟨known, hk, (Json.Decode.required_eq rfl _ _).trans ?_⟩
  exact congrArg (Except.map some) hx

/-- Members are sorted as a store sorts them. -/
theorem sortById_eq {ms : List Member} {s : Store}
    (h : (ms.map timeless).Perm (s.members.map timeless)) :
    (sortById ms).map timeless = s.members.map timeless := by
  have hp : ((sortById ms).map timeless).Perm (s.members.map timeless) :=
    ((List.mergeSort_perm ms _).map timeless).trans h
  have hs : ((sortById ms).map timeless).Pairwise (fun a b => a.id ≤ b.id) := by
    refine List.pairwise_map.2 (List.Pairwise.imp ?_ (List.pairwise_mergeSort ?_ ?_ ms))
    · intro a b hab
      exact of_decide_eq_true hab
    · intro a b c hab hbc
      simp only [decide_eq_true_eq] at hab hbc ⊢
      exact String.le_trans hab hbc
    · intro a b
      simpa using String.le_total a.id b.id
  have ht : (s.members.map timeless).Pairwise (fun a b => a.id ≤ b.id) :=
    List.pairwise_map.2 (s.ascending.imp fun h =>
      String.not_lt.1 fun hba => String.lt_irrefl _ (String.lt_trans h hba))
  refine List.Perm.eq_of_pairwise (fun a b ha hb hab hba => ?_) hs ht hp
  obtain ⟨m, hm, rfl⟩ := List.mem_map.1 (hp.subset ha)
  obtain ⟨n, hn, rfl⟩ := List.mem_map.1 hb
  rw [List.inj_on_of_nodup_map s.nodup_ids hm hn (String.le_antisymm hab hba)]

end Lists

/-- Objects, in any order, that describe the members of a store one by one. -/
def Mirrors (os : List Stored) (s : Store) : Prop :=
  ∃ xs : List Stored, xs.Perm os ∧ List.Forall₂ Stored.Describes xs s.members

namespace Mirrors

variable {os others : List Stored} {s : Store}

private theorem describes_reorders {xs ys : List Stored} {ms : List Member}
    (h : List.Forall₂ Stored.Describes xs ms) (hr : List.Forall₂ (flip Stored.Reorders) xs ys) :
    List.Forall₂ Stored.Describes ys ms := by
  induction h generalizing ys with
  | nil => exact List.forall₂_nil_left_iff.1 hr ▸ .nil
  | cons h _ ih =>
    obtain ⟨y, ys, hy, hys, rfl⟩ := List.forall₂_cons_left_iff.1 hr
    exact .cons (h.reorder hy) (ih hys)

/-- The objects may be kept in other orders. -/
theorem keep (h : Mirrors os s) (hk : Keeps others os) : Mirrors others s := by
  obtain ⟨xs, hx, hd⟩ := h
  obtain ⟨ys, hy, hr⟩ := hk
  obtain ⟨zs, hz, hp⟩ := List.perm_comp_forall₂ hx hr.flip
  exact ⟨zs, hp.trans hy, describes_reorders hd hz⟩

private theorem names_eq {xs : List Stored} {ms : List Member}
    (h : List.Forall₂ Stored.Describes xs ms) : xs.map (·.name) = ms.map (·.id) := by
  induction h with
  | nil => rfl
  | cons h _ ih => rw [List.map_cons, List.map_cons, h.name, ih]

private theorem exists_describes {xs : List Stored} {ms : List Member}
    (h : List.Forall₂ Stored.Describes xs ms) {m : Member} (hm : m ∈ ms) :
    ∃ o ∈ xs, o.Describes m := by
  induction h with
  | nil => cases hm
  | @cons x n _ _ hx _ ih =>
    rcases List.mem_cons.1 hm with rfl | hm
    · exact ⟨x, by simp, hx⟩
    · obtain ⟨o, ho, hd⟩ := ih hm
      exact ⟨o, by simp [ho], hd⟩

theorem known (h : Mirrors os s) {id : String} {m : Member} (hm : s.get? id = some m) :
    ∃ o ∈ os, o.name = id ∧ o.Describes m := by
  obtain ⟨xs, hx, hd⟩ := h
  obtain ⟨hms, rfl⟩ := Store.get?_eq_some_iff.1 hm
  obtain ⟨o, ho, hom⟩ := exists_describes hd hms
  exact ⟨o, hx.subset ho, hom.name, hom⟩

theorem unknown (h : Mirrors os s) {id : String} (hm : s.get? id = none) :
    id ∉ os.map (·.name) := by
  obtain ⟨xs, hx, hd⟩ := h
  rw [← (hx.map _).mem_iff, names_eq hd]
  exact Store.get?_eq_none_iff.1 hm

private theorem putMember_describes {xs : List Stored} {ms : List Member} {o : Stored} {m : Member}
    (h : List.Forall₂ Stored.Describes xs ms) (ho : o.Describes m) (hm : m.id ∉ ms.map (·.id)) :
    ∃ ys : List Stored, ys.Perm (o :: xs) ∧
      List.Forall₂ Stored.Describes ys (Store.putMember m ms) := by
  induction h with
  | nil => exact ⟨[o], .refl _, .cons ho .nil⟩
  | @cons x n xs ms hx hxs ih =>
    simp only [List.map_cons, List.mem_cons, not_or] at hm
    unfold Store.putMember
    split
    · exact ⟨o :: x :: xs, .refl _, .cons ho (.cons hx hxs)⟩
    · rw [if_neg hm.1]
      obtain ⟨ys, hp, hy⟩ := ih hm.2
      exact ⟨x :: ys, (hp.cons x).trans (.swap o x xs), .cons hx hy⟩

/-- A cluster is registered here and there. -/
theorem create (h : Mirrors os s) {id : String} (hm : s.get? id = none) (r : Registration)
    (createdAt : Option String) :
    Mirrors (⟨id, r.toJson, none⟩ :: os) (s.put (.new id r createdAt)) := by
  obtain ⟨xs, hx, hd⟩ := h
  obtain ⟨ys, hp, hy⟩ := putMember_describes hd (.new id r createdAt)
    (Store.get?_eq_none_iff.1 hm)
  exact ⟨ys, hp.trans (hx.cons _), hy⟩

/-- The status of a member is patched here and there. -/
theorem patch (h : Mirrors os s) (id : String) {p : Status.Patch} (hp : p.Fits) :
    Mirrors (os.map fun x => if x.name = id then x.patched p.document else x) (s.patch id p) := by
  obtain ⟨xs, hx, hd⟩ := h
  refine ⟨_, hx.map _, ?_⟩
  refine List.forall₂_map_left_iff.2 (List.forall₂_map_right_iff.2 (hd.imp fun x m hxm => ?_))
  unfold Store.patchMember
  rw [hxm.name]
  split
  · exact hxm.patched hp
  · exact hxm

end Mirrors

namespace Call

/-- Whether ids can name objects and numbers fit 64 bits. -/
def IsProper : Call → Prop
  | list => True
  | get id | create id _ => Kube.IsName id
  | patch id p => Kube.IsName id ∧ p.Fits

instance : DecidablePred IsProper
  | list => .isTrue trivial
  | get id | create id _ => inferInstanceAs (Decidable (Kube.IsName id))
  | patch id p => inferInstanceAs (Decidable (Kube.IsName id ∧ p.Fits))

/-- An answer without the times of creation in it. -/
def timeless : (c : Call) → c.Reply → c.Reply
  | list, r => r.map (·.map Registry.timeless)
  | get _, r | create .., r => r.map Registry.timeless
  | patch .., r => r

end Call

section Step

variable {σ : Type} {limit : Span} {send : Kube.Transport σ} {objects : σ → List Stored}

/-- What a request that can be sent is answered with. -/
theorem serveRemote_eq {c : Call} {request : Kube.Request} (h : c.request? = some request)
    (w : σ) : serveRemote limit send c w =
      (((send request w).1.readWithin limit c.activity c.decoder).mapError c.explain,
        (send request w).2) := by
  simp only [serveRemote, h]
  rfl

private theorem read_member {o : Stored} {m : Member} {r : Kube.Reply}
    (h : Shows limit o.IsShown r) (hd : o.Describes m) (what : String) :
    ∃ at?, r.readWithin limit what Member.ofResource = .ok { m with createdAt := at? } := by
  obtain ⟨j, hj, hr⟩ := h.readWithin what Member.ofResource
  obtain ⟨at?, hx⟩ := hd.ofResource hj
  exact ⟨at?, hr _ hx⟩

/-- Whether both registries give the same answer to a call, and hold the same members behind it. -/
def Agrees (limit : Span) (send : Kube.Transport σ) (objects : σ → List Stored) (w : σ) (s : Store)
    (now : String) (c : Call) : Prop :=
  c.timeless (serveRemote limit send c w).1 = c.timeless (Store.serve now c s).1 ∧
    Mirrors (objects (serveRemote limit send c w).2) (Store.serve now c s).2

variable {w : σ} {s : Store}

private theorem list_agrees (h : WellBehaved limit send objects) (hm : Mirrors (objects w) s)
    (now : String) : Agrees limit send objects w s now .list := by
  obtain ⟨⟨os, hos, shown⟩, hp⟩ := h.list w
  obtain ⟨xs, hx, hd⟩ := hm
  obtain ⟨ms, hms, hmp⟩ := List.perm_comp_forall₂ (hos.trans hx.symm) hd
  obtain ⟨j, hj, hr⟩ := shown.readWithin Call.list.activity Call.list.decoder
  obtain ⟨ys, hy, he⟩ := hj.listOf hms
  rw [Agrees, serveRemote_eq request?_list, hr (sortById ys) (congrArg (Except.map sortById) hy)]
  refine ⟨congrArg Except.ok (sortById_eq ?_), Mirrors.keep ⟨xs, hx, hd⟩ hp⟩
  rw [he]
  exact hmp.map timeless

private theorem get_agrees (h : WellBehaved limit send objects) (hm : Mirrors (objects w) s)
    {id : String} (hid : Kube.IsName id) (now : String) :
    Agrees limit send objects w s now (.get id) := by
  rw [Agrees, serveRemote_eq (request?_get hid), Call.decoder]
  cases hs : s.get? id with
  | some m =>
    obtain ⟨o, ho, rfl, hd⟩ := hm.known hs
    obtain ⟨shown, hp⟩ := h.get_known w o ho hid
    obtain ⟨at?, hr⟩ := read_member shown hd (Call.get o.name).activity
    simp only [Store.serve, hs, hr]
    exact ⟨rfl, hm.keep hp⟩
  | none =>
    obtain ⟨refused, hp⟩ := h.get_unknown w id hid (hm.unknown hs)
    obtain ⟨e, hr, he⟩ := refused.readWithin rfl (Call.get id).activity Member.ofResource
    simp only [Store.serve, hs, hr, Except.mapError, Call.explain, he, if_pos]
    exact ⟨trivial, hm.keep hp⟩

private theorem create_agrees (h : WellBehaved limit send objects) (hm : Mirrors (objects w) s)
    {id : String} (hid : Kube.IsName id) (r : Registration) (now : String) :
    Agrees limit send objects w s now (.create id r) := by
  rw [Agrees, serveRemote_eq (request?_create id r), Call.decoder]
  cases hs : s.get? id with
  | some m =>
    obtain ⟨o, ho, rfl, -⟩ := hm.known hs
    obtain ⟨refused, hp⟩ := h.create_known w o ho hid r
    obtain ⟨e, hr, he⟩ := refused.readWithin rfl (Call.create o.name r).activity Member.ofResource
    simp only [Store.serve, hs, hr, Except.mapError, Call.explain, he, if_pos]
    exact ⟨trivial, hm.keep hp⟩
  | none =>
    obtain ⟨shown, hp⟩ := h.create_unknown w id hid (hm.unknown hs) r
    obtain ⟨at?, hr⟩ := read_member shown (.new id r none) (Call.create id r).activity
    simp only [Store.serve, hs, hr]
    exact ⟨rfl, (hm.create hs r _).keep hp⟩

private theorem patch_agrees (h : WellBehaved limit send objects) (hm : Mirrors (objects w) s)
    {id : String} (hid : Kube.IsName id) {p : Status.Patch} (hp : p.Fits) (now : String) :
    Agrees limit send objects w s now (.patch id p) := by
  rw [Agrees, serveRemote_eq (request?_patch hid p)]
  cases hs : s.get? id with
  | some m =>
    obtain ⟨o, ho, rfl, hd⟩ := hm.known hs
    obtain ⟨shown, hperm⟩ := h.patch_known w o ho hid p hp
    obtain ⟨j, hj, hr⟩ := shown.readWithin (Call.patch o.name p).activity
      (Call.patch o.name p).decoder
    obtain ⟨at?, hx⟩ := (hd.patched hp).ofResource hj
    simp only [Store.serve, hs, hr () (congrArg (Except.map fun _ => ()) hx)]
    exact ⟨rfl, (hm.patch o.name hp).keep hperm⟩
  | none =>
    obtain ⟨refused, hperm⟩ := h.patch_unknown w id hid (hm.unknown hs) p hp
    obtain ⟨e, hr, he⟩ := refused.readWithin rfl (Call.patch id p).activity
      (Call.patch id p).decoder
    simp only [Store.serve, hs, hr, Except.mapError, Call.explain, he, if_pos]
    exact ⟨trivial, hm.keep hperm⟩

/-- Both registries give the same answer to any call, and still hold the same members. -/
theorem serve_agrees (h : WellBehaved limit send objects) (hm : Mirrors (objects w) s) {c : Call}
    (hc : c.IsProper) (now : String) : Agrees limit send objects w s now c := by
  cases c with
  | list => exact list_agrees h hm now
  | get id => exact get_agrees h hm hc now
  | create id r => exact create_agrees h hm hc r now
  | patch id p => exact patch_agrees h hm hc.1 hc.2 now

end Step

/-- The answers to calls that are made one after the other, each at some time, without times of
creation. -/
def answers {σ : Type} (serve : String → (c : Call) → StateM σ c.Reply) :
    List (String × Call) → StateM σ (List ((c : Call) × c.Reply))
  | [] => return []
  | (now, c) :: rest => do
    let r ← serve now c
    return ⟨c, c.timeless r⟩ :: (← answers serve rest)

/-- Whatever is asked, a registry on a well-behaved server gives the answers of one that keeps its
members itself, and in the end both hold the same members. -/
theorem answers_agree {σ : Type} {limit : Span} {send : Kube.Transport σ}
    {objects : σ → List Stored} (h : WellBehaved limit send objects) {w : σ} {s : Store}
    (hm : Mirrors (objects w) s) {calls : List (String × Call)}
    (hc : ∀ call ∈ calls, call.2.IsProper) :
    (answers (fun _ => serveRemote limit send) calls w).1 = (answers Store.serve calls s).1 ∧
      Mirrors (objects (answers (fun _ => serveRemote limit send) calls w).2)
        (answers Store.serve calls s).2 := by
  induction calls generalizing w s with
  | nil => exact ⟨rfl, hm⟩
  | cons call calls ih =>
    obtain ⟨now, c⟩ := call
    obtain ⟨hr, hn⟩ := serve_agrees h hm (hc (now, c) (by simp)) now
    obtain ⟨hrs, hns⟩ := ih hn fun call hcall => hc call (by simp [hcall])
    refine ⟨?_, hns⟩
    exact congrArg₂ (fun r rs => (⟨c, r⟩ : (c : Call) × c.Reply) :: rs) hr hrs

/-- Two objects, of which one has no status yet, are listed, patched, given and created. -/
theorem answers_agree_of_two :
    let r (id : String) : Registration := ⟨"config", id, ""⟩
    let k : Keeper := {
      objects := [⟨"lab", (r "lab").toJson, none⟩,
        ⟨"core", (r "core").toJson, some (.obj [("phase", .str "on"), ("cpu_usage", .int 250)])⟩]
      names := by decide
      plain := by decide }
    let s : Store := {
      members := [{ Member.new "core" (r "core") none with status.cpuUsage := 250 },
        .new "lab" (r "lab") none]
      ascending := by decide }
    let calls : List (String × Call) := [("09:00", .list),
      ("09:01", .patch "lab" (.ofHealth .normal)), ("09:02", .get "lab"),
      ("09:03", .create "core" (r "core")), ("09:04", .create "edge" (r "edge")),
      ("09:05", .get "hut"), ("09:06", .list)]
    WellBehaved (.ofSeconds 30) Keeper.serve Keeper.objects ∧ Mirrors k.objects s ∧
      (∀ call ∈ calls, call.2.IsProper) ∧
      (answers (fun _ => serveRemote (.ofSeconds 30) Keeper.serve) calls k).1 =
        (answers Store.serve calls s).1 ∧
      Mirrors (answers (fun _ => serveRemote (.ofSeconds 30) Keeper.serve) calls k).2.objects
        (answers Store.serve calls s).2 := by
  intro r k s calls
  have hb : WellBehaved (.ofSeconds 30) Keeper.serve Keeper.objects := Keeper.wellBehaved rfl
  have hm : Mirrors k.objects s := by
    refine ⟨[_, _], .swap _ _ [], .cons ?_ (.cons ?_ .nil)⟩
    · exact ⟨rfl, rfl, .inr ⟨_, rfl, rfl⟩⟩
    · exact ⟨rfl, rfl, .inl ⟨rfl, rfl⟩⟩
  have hc : ∀ call ∈ calls, call.2.IsProper := by decide
  exact ⟨hb, hm, hc, answers_agree hb hm hc⟩

end Registry
end MultiCluster
