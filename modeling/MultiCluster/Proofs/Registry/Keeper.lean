import MultiCluster.Proofs.Json.RoundTrip
import MultiCluster.Proofs.Registry.Server
import Mathlib.Data.List.Forall2
import Mathlib.Data.List.Nodup

/-! A server that keeps the objects of a registry in a list, on which a registry can rely. -/
namespace MultiCluster.Registry

open Json (isPlain)

/-- Arrays and objects nest to this depth at most in what is kept, so that it can be shown. -/
def Keeper.depth : Nat := 123

/-- Objects with different names that can be written without loss. -/
structure Keeper where
  objects : List Stored
  names : (objects.map (·.name)).Nodup
  plain : ∀ o ∈ objects, Json.arePlainMembers Keeper.depth o.members = true

namespace Keeper

/-- The report of a refusal. -/
def report (code : Nat) : Json :=
  .obj [("kind", .str "Status"), ("status", .str "Failure"), ("code", .int code)]

/-- Refuses a request. -/
def refuse (code : Nat) : StateM Keeper Kube.Reply :=
  return .answer code (report code).render 0

/-- Shows a value. -/
def present (code : Nat) (j : Json) : StateM Keeper Kube.Reply :=
  return .answer code j.render 0

/-- The list of all objects. -/
def listing (k : Keeper) : Json :=
  .obj [("kind", .str "ClusterList"), ("items", .arr (k.objects.map fun o => .obj o.members))]

/-- The object at a path that ends in the suffix. -/
def at? (k : Keeper) (suffix path : String) : Option Stored :=
  k.objects.find? fun o => item o.name ++ suffix = path

/-- The object that a body describes. -/
def posted? (body : Json) : Option Stored := do
  return ⟨← body.textAt? ["metadata", "name"], ← body.member? "spec", none⟩

/-- Adds an object if there is none with its name. -/
def create (o : Stored) : StateM Keeper Kube.Reply := fun k =>
  if hn : o.name ∈ k.objects.map (·.name) then refuse 409 k
  else if hp : Json.arePlainMembers depth o.members = true then
    present 201 (.obj o.members) {
      objects := o :: k.objects
      names := List.nodup_cons.2 ⟨hn, k.names⟩
      plain := by simpa using ⟨hp, k.plain⟩ }
  else refuse 422 k

/-- Merges a document into the status of an object. -/
def patch (o : Stored) (document : Json) : StateM Keeper Kube.Reply := fun k =>
  let objects := k.objects.map fun x => if x.name = o.name then x.patched document else x
  if hp : ∀ x ∈ objects, Json.arePlainMembers depth x.members = true then
    present 200 (.obj (o.patched document).members) {
      objects
      names := by
        have : objects.map (·.name) = k.objects.map (·.name) := by
          rw [List.map_map]
          apply List.map_congr_left
          intro x _
          simp only [Function.comp_apply]
          split <;> rfl
        rw [this]
        exact k.names
      plain := hp }
  else refuse 422 k

/-- Answers a request. -/
def serve (r : Kube.Request) : StateM Keeper Kube.Reply := do
  let k ← get
  match r.method, r.body with
  | .get, _ =>
    if r.path = collection then present 200 k.listing
    else match k.at? "" r.path with
      | some o => present 200 (.obj o.members)
      | none => refuse 404
  | .post, some (_, body) =>
    match posted? body with
    | some o => create o
    | none => refuse 400
  | .patch, some (_, document) =>
    match k.at? "/status" r.path with
    | some o => patch o document
    | none => refuse 404
  | _, _ => refuse 405

variable {limit : Span} {k : Keeper}

theorem isShown_members (o : Stored) : o.IsShown (.obj o.members) := by
  obtain ⟨name, spec, status⟩ := o
  have spec_given : Json.given "spec" (Stored.members ⟨name, spec, status⟩) = [spec] := by
    cases status <;> simp [Stored.members, Json.given]
  have status_given :
      Json.given "status" (Stored.members ⟨name, spec, status⟩) = status.toList := by
    cases status <;> simp [Stored.members, Json.given]
  refine ⟨_, .ofTexts [("name", name)], .ofTexts [("name", name)], rfl, ?_, rfl, rfl, ?_, ?_⟩
  · cases status <;> simp [Stored.members, Json.given]
  · exact spec_given ▸ Json.Reorders.forall₂_refl _
  · exact status_given ▸ Json.Reorders.forall₂_refl _

private theorem isPlain_obj {members : List (String × Json)}
    (h : Json.arePlainMembers depth members = true) :
    Json.isPlain Json.maxDepth (.obj members) = true :=
  Json.isPlain_mono (by decide : depth + 1 ≤ Json.maxDepth) h

private theorem isInTime_answer (hl : limit.isZero = false) (status : Nat) (body : String) :
    (Kube.Reply.answer status body 0).isInTime limit = true := by
  simp [Kube.Reply.isInTime, hl]

private theorem shows_present (hl : limit.isZero = false) {code : Nat}
    (hc : Http.isSuccess code = true) {P : Json → Prop} {j : Json}
    (hj : Json.isPlain Json.maxDepth j = true) (h : P j) : Shows limit P (present code j k).1 :=
  ⟨code, j.render, 0, j, rfl, hc, isInTime_answer hl _ _, Json.parseLenient?_render hj, h⟩

private theorem refuses_refuse (hl : limit.isZero = false) {code : Nat}
    (hp : Json.isPlain Json.maxDepth (report code) = true)
    (hr : Kube.refusalOf (report code) = .ok ⟨"Failure", "", "", code⟩) :
    Refuses limit code (refuse code k).1 := by
  refine ⟨_, 0, rfl, isInTime_answer hl _ _, fun r h => ?_⟩
  rw [Json.parseLenient?_render hp, Option.map_some, hr] at h
  cases h
  rfl

-- Objects are found by their paths, which have nothing in common but the place of all objects.
private theorem at?_path {o : Stored} (ho : o ∈ k.objects) (suffix : String) :
    k.at? suffix (item o.name ++ suffix) = some o := by
  unfold at?
  cases hf : k.objects.find? (fun x => item x.name ++ suffix = item o.name ++ suffix) with
  | none => simpa using List.find?_eq_none.1 hf o ho
  | some x =>
    have hx := List.mem_of_find?_eq_some hf
    have hn : x.name = o.name := by simpa [item] using List.find?_some hf
    rw [List.inj_on_of_nodup_map k.names hx ho hn]

private theorem at?_path_eq_none {id : String} (h : id ∉ k.objects.map (·.name))
    (suffix : String) : k.at? suffix (item id ++ suffix) = none := by
  refine List.find?_eq_none.2 fun x hx he => h ?_
  have hn : x.name = id := by simpa [item] using he
  exact hn ▸ List.mem_map_of_mem hx

private theorem item_ne_collection (id : String) : item id ≠ collection := by
  intro h
  have hl := congrArg String.length h
  have hs : "/".length = 1 := rfl
  simp only [item, String.length_append, hs] at hl
  omega

private theorem serve_list : serve listRequest k = present 200 k.listing k := rfl

private theorem serve_get (id : String) : serve (getRequest id) k =
    match k.at? "" (item id ++ "") with
    | some o => present 200 (.obj o.members) k
    | none => refuse 404 k := by
  have h : serve (getRequest id) k = (if item id = collection then present 200 k.listing
      else match k.at? "" (item id) with
        | some o => present 200 (.obj o.members)
        | none => refuse 404) k := rfl
  rw [h, if_neg (item_ne_collection id), String.append_empty]
  cases k.at? "" (item id) <;> rfl

private theorem serve_create (id : String) (r : Registration) :
    serve (createRequest id r) k = create ⟨id, r.toJson, none⟩ k := rfl

private theorem serve_patch (id : String) (p : Status.Patch) : serve (patchRequest id p) k =
    match k.at? "/status" (item id ++ "/status") with
    | some o => patch o p.document k
    | none => refuse 404 k := by
  have h : serve (patchRequest id p) k = (match k.at? "/status" (item id ++ "/status") with
      | some o => patch o p.document
      | none => refuse 404) k := rfl
  rw [h]
  cases k.at? "/status" (item id ++ "/status") <;> rfl

private theorem setMember?_plain {depth : Nat} {key : String} {value : Option Json}
    {members : List (String × Json)} (hv : ∀ j ∈ value, Json.isPlain depth j = true)
    (h : Json.arePlainMembers depth members = true) :
    Json.arePlainMembers depth (Json.setMember? key value members) = true := by
  cases value with
  | none => exact h
  | some j =>
    have hj := hv j rfl
    rw [Json.setMember?]
    induction members with
    | nil => simpa [Json.setMember, Json.arePlainMembers] using hj
    | cons m members ih =>
      simp only [Json.arePlainMembers, Bool.and_eq_true] at h
      unfold Json.setMember
      split
      · simp [Json.arePlainMembers, hj, h.2]
      · simp [Json.arePlainMembers, h.1, ih h.2]

private theorem members?_plain {depth : Nat} {status : Option Json}
    (h : ∀ j ∈ status, Json.isPlain (depth + 1) j = true) :
    Json.arePlainMembers depth ((status.bind Json.members?).getD []) = true := by
  cases status with
  | none => rfl
  | some j =>
    cases j with
    | obj members => exact h (.obj members) rfl
    | _ => rfl

private theorem merged_plain {depth : Nat} {p : Status.Patch} (hp : p.Fits)
    {members : List (String × Json)} (h : Json.arePlainMembers depth members = true) :
    Json.arePlainMembers depth (p.merged members) = true := by
  have int (value : Option Int)
      (hv : ∀ i ∈ value, Word.least 64 ≤ i ∧ i ≤ Word.greatest 64) :
      ∀ j ∈ value.map Json.int, Json.isPlain depth j = true := by
    intro j hj
    obtain ⟨i, hi, rfl⟩ := Option.map_eq_some_iff.1 hj
    have hb : Word.greatest 64 < Word.limit 64 := by decide
    have := hv i hi
    simp only [Json.isPlain, Bool.and_eq_true, decide_eq_true_eq]
    omega
  simp only [Status.Patch.Fits, List.forall_mem_cons] at hp
  obtain ⟨fcu, fmu, fcc, fmc, -⟩ := hp
  refine setMember?_plain (fun j hj => ?_) (setMember?_plain (int _ fmc) (setMember?_plain
    (int _ fcc) (setMember?_plain (int _ fmu) (setMember?_plain (int _ fcu) h))))
  obtain ⟨x, -, rfl⟩ := Option.map_eq_some_iff.1 hj
  cases x <;> rfl

private theorem plain_members_iff {depth : Nat} {o : Stored} :
    Json.arePlainMembers (depth + 1) o.members = true ↔
      Json.isPlain (depth + 1) o.spec = true ∧
        ∀ j ∈ o.status, Json.isPlain (depth + 1) j = true := by
  obtain ⟨name, spec, status⟩ := o
  cases status <;>
    simp [Stored.members, Json.arePlainMembers, Json.ofTexts, Json.isPlain]

/-- What is kept can still be shown when a status is patched. -/
private theorem patched_plain {p : Status.Patch} (hp : p.Fits) {o : Stored}
    (h : Json.arePlainMembers depth o.members = true) :
    Json.arePlainMembers depth (o.patched p.document).members = true := by
  rw [Stored.patched_document]
  obtain ⟨hs, hst⟩ := plain_members_iff.1 h
  refine plain_members_iff.2 ⟨hs, fun j hj => ?_⟩
  obtain rfl := Option.some_inj.1 hj
  exact merged_plain hp (members?_plain hst)

private theorem plain_listing (k : Keeper) : Json.isPlain Json.maxDepth k.listing = true := by
  have h : Json.arePlainItems 125 (k.objects.map fun o => .obj o.members) = true := by
    rw [Json.arePlainItems_iff]
    intro j hj
    obtain ⟨o, ho, rfl⟩ := List.mem_map.1 hj
    exact Json.isPlain_mono (by decide : depth + 1 ≤ 125) (k.plain o ho)
  simp [listing, Json.maxDepth, Json.isPlain, Json.arePlainMembers, h]

/-- A server that keeps objects in a list does all that a registry relies on. -/
theorem wellBehaved (hl : limit.isZero = false) : WellBehaved limit serve Keeper.objects where
  list k := by
    rw [serve_list]
    refine ⟨⟨k.objects, .refl _, shows_present hl rfl ?_ ?_⟩, .refl _⟩
    · exact plain_listing k
    · refine ⟨_, _, rfl, Json.isReadable_of_isPlain (plain_listing k), rfl, .inl rfl, ?_⟩
      exact List.forall₂_map_right_iff.2 (List.forall₂_same.2 fun o _ => isShown_members o)
  get_known k o ho _ := by
    have hat := at?_path ho ""
    rw [serve_get, hat]
    exact ⟨shows_present hl rfl (isPlain_obj (k.plain o ho)) (isShown_members o), .refl _⟩
  get_unknown k id _ h := by
    have hat := at?_path_eq_none h ""
    rw [serve_get, hat]
    exact ⟨refuses_refuse hl rfl rfl, .refl _⟩
  create_known k o ho _ r := by
    rw [serve_create, create, dif_pos (List.mem_map_of_mem ho)]
    exact ⟨refuses_refuse hl rfl rfl, .refl _⟩
  create_unknown k id _ h r := by
    have hp : Json.arePlainMembers depth (Stored.mk id r.toJson none).members = true := rfl
    rw [serve_create, create, dif_neg h, dif_pos hp]
    exact ⟨shows_present hl rfl (isPlain_obj hp) (isShown_members _), .refl _⟩
  patch_known k o ho _ p hp := by
    have hat := at?_path ho "/status"
    have hall : ∀ x ∈ k.objects.map fun x => if x.name = o.name then x.patched p.document else x,
        Json.arePlainMembers depth x.members = true := by
      intro x hx
      obtain ⟨y, hy, rfl⟩ := List.mem_map.1 hx
      split
      · exact patched_plain hp (k.plain y hy)
      · exact k.plain y hy
    rw [serve_patch, hat]
    simp only [patch, dif_pos hall]
    exact ⟨shows_present hl rfl (isPlain_obj (patched_plain hp (k.plain o ho)))
      (isShown_members _), .refl _⟩
  patch_unknown k id _ h p _ := by
    have hat := at?_path_eq_none h "/status"
    rw [serve_patch, hat]
    exact ⟨refuses_refuse hl rfl rfl, .refl _⟩

end Keeper
end MultiCluster.Registry
