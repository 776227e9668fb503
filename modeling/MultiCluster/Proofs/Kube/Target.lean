import MultiCluster.Deployment.Draft
import MultiCluster.Proofs.Json.Fields
import MultiCluster.Proofs.Text.Split
import MultiCluster.Registry.Remote
import MultiCluster.Web.Route
import Mathlib.Data.List.TakeWhile

/-! Where requests about one object go. A name is put into the target as it is, so that the target
leads to the object only if the name has none of the marks that take a target apart. -/
namespace MultiCluster

namespace Http

/-- Whether a character ends the path in a target. -/
def endsPath (c : Char) : Bool := c == '?' || c == '#'

/-- A target has the path up to the first character that ends it, and a query only behind a question
mark. -/
theorem Target.ofChars_eq_ok {cs : List Char} {t : Target} (h : ofChars cs = .ok t) :
    t.path = String.ofList (cs.takeWhile (!endsPath ·)) ∧
      t.query = match cs.dropWhile (!endsPath ·) with
        | '?' :: rest => some (String.ofList (rest.takeWhile (· != '#')))
        | _ => none := by
  have hp : (fun c => c != '?' && c != '#') = (!endsPath ·) := by
    funext c
    simp [endsPath, bne]
  have hd : (cs.takeWhile (!endsPath ·) ++ cs.dropWhile (!endsPath ·)).drop
      (cs.takeWhile (!endsPath ·)).length = cs.dropWhile (!endsPath ·) := List.drop_left
  rw [List.takeWhile_append_dropWhile] at hd
  rw [ofChars] at h
  simp only [hp, hd] at h
  split at h <;> split at h <;> cases h <;> simp_all

/-- A text behind a target that has a question mark is put behind the query, unless a number sign
hides it. -/
theorem Target.ofChars_append {cs tail : List Char} {t u : Target} (hq : '?' ∈ cs)
    (hn : '#' ∉ tail) (ht : ofChars cs = .ok t) (hu : ofChars (cs ++ tail) = .ok u) :
    u.path = t.path ∧ if '#' ∈ cs then u.query = t.query
      else ∃ query, t.query = some query ∧ u.query = some (query ++ String.ofList tail) := by
  -- what matters is which of the two characters that end a path comes first
  have found : (cs.find? endsPath).isSome := List.find?_isSome.2 ⟨'?', hq, rfl⟩
  obtain ⟨c, hc⟩ := Option.isSome_iff_exists.1 found
  obtain ⟨ends, front, rest, rfl, hf⟩ := List.find?_eq_some_iff_append.1 hc
  obtain ⟨tp, tq⟩ := ofChars_eq_ok ht
  obtain ⟨up, uq⟩ := ofChars_eq_ok hu
  rw [List.append_assoc, List.cons_append] at up uq
  rw [List.takeWhile_append_of_pos hf, List.takeWhile_cons_of_neg (by simp [ends])] at tp up
  rw [List.dropWhile_append_of_pos hf, List.dropWhile_cons_of_neg (by simp [ends])] at tq uq
  refine ⟨up.trans tp.symm, ?_⟩
  have inFront : '#' ∉ front := fun h => by simpa [endsPath] using hf _ h
  by_cases hm : c = '?'
  · subst hm
    have inText : '#' ∈ front ++ '?' :: rest ↔ '#' ∈ rest := by simp [inFront]
    have all {cs : List Char} (h : '#' ∉ cs) : cs.takeWhile (· != '#') = cs := by
      refine List.takeWhile_eq_self_iff.2 fun c hc => ?_
      have hn : c ≠ '#' := fun he => h (he ▸ hc)
      simpa using hn
    change t.query = some (String.ofList (rest.takeWhile (· != '#'))) at tq
    change u.query = some (String.ofList ((rest ++ tail).takeWhile (· != '#'))) at uq
    simp only [inText]
    split
    · next hr =>
      have short : (rest.takeWhile (· != '#')).length ≠ rest.length := fun h => by
        have whole := (List.takeWhile_prefix (· != '#')).eq_of_length h
        simpa using List.takeWhile_eq_self_iff.1 whole _ hr
      rw [List.takeWhile_append, if_neg short] at uq
      exact uq.trans tq.symm
    · next hr =>
      rw [all hr] at tq
      rw [all (by simp [hr, hn])] at uq
      exact ⟨_, tq, uq.trans (by rw [String.ofList_append])⟩
  · obtain rfl : c = '#' := by simpa [endsPath, hm] using ends
    rw [if_pos (by simp)]
    exact uq.trans tq.symm

theorem Address.parse_slash {s : String} {a : Address} (hs : s.toList.head? = some '/')
    (h : parse s = .ok a) : ∃ t, Target.ofChars s.toList = .ok t ∧ a = ⟨none, "", t⟩ := by
  have he : s.toList.isEmpty = false := by
    cases hc : s.toList with
    | nil => simp [hc] at hs
    | cons c cs => rfl
  simp only [parse, hs, he] at h
  split at h
  · cases h
  · obtain ⟨t, ht, ha⟩ := bind_eq_ok_iff.1 h
    exact ⟨t, ht, by cases ha; rfl⟩

end Http

theorem Deployment.toList_collection (ns : String) : (collection ns).toList =
    "/apis/apps/v1/namespaces/".toList ++ ns.toList ++ "/deployments".toList := by
  unfold collection
  rw [String.toList_append, String.toList_append]
  rfl

namespace Kube

/-- Whether a character ends a segment of a path. -/
def endsSegment (c : Char) : Bool := c == '/' || Http.endsPath c

/-- A text that stays whole as a segment of a path. -/
def IsSegment (s : String) : Prop := s.toList.all (!endsSegment ·) = true

instance : DecidablePred IsSegment := fun s =>
  inferInstanceAs (Decidable (s.toList.all (!endsSegment ·) = true))

/-- The path of some segments. -/
def pathOf (segments : List String) : String :=
  String.ofList ('/' :: ['/'].intercalate (segments.map String.toList))

private theorem forall_mem_intercalate {P : Char → Prop} (hs : P '/') {parts : List (List Char)}
    (h : ∀ part ∈ parts, ∀ c ∈ part, P c) : ∀ c ∈ ['/'].intercalate parts, P c := by
  induction parts with
  | nil => simp
  | cons part parts ih =>
    obtain ⟨hp, hps⟩ := List.forall_mem_cons.1 h
    cases parts with
    | nil => simpa using hp
    | cons part' parts =>
      rw [List.intercalate_cons_cons]
      intro c hc
      simp only [List.mem_append, List.mem_singleton] at hc
      rcases hc with (hc | rfl) | hc
      · exact hp c hc
      · exact hs
      · exact ih hps c hc

private theorem segments_ofList (cs : List Char) :
    Web.segments (String.ofList ('/' :: cs)) = (Text.splitAll '/' cs).map String.ofList := by
  simp only [Web.segments, String.toList_ofList]

/-- A request whose target begins with a slash has the path and the query of the target. -/
theorem Request.build?_slash {method : Method} {target : String} {body : Option (Content × Json)}
    {r : Request} (hs : target.toList.head? = some '/') (h : build? method target body = some r) :
    ∃ t, Http.Target.ofChars target.toList = .ok t ∧ r = ⟨method, t.path, t.query, body⟩ := by
  rw [build?, build] at h
  cases ha : Http.Address.parse target with
  | error fault =>
    rw [ha] at h
    cases h
  | ok a =>
    rw [ha] at h
    obtain ⟨t, hc, rfl⟩ := Http.Address.parse_slash hs ha
    refine ⟨t, hc, ?_⟩
    simpa [Except.map, Except.toOption, Http.Address.path] using h.symm

/-- Whether a request is about what is under the segments, with no parameters. -/
structure Request.IsAt (r : Request) (segments : List String) : Prop where
  path : Web.segments r.path = segments
  query : ∀ query ∈ r.query, query = ""

section

variable {segments : List String} {tail : String} {method : Method}
  {body : Option (Content × Json)} {r : Request}

/-- A request with the path of some segments as its target. -/
private theorem build?_eq_some (h : Request.build? method (pathOf segments ++ tail) body = some r) :
    ∃ t, Http.Target.ofChars ('/' :: (['/'].intercalate (segments.map String.toList) ++
      tail.toList)) = .ok t ∧ r = ⟨method, t.path, t.query, body⟩ := by
  have ht : (pathOf segments ++ tail).toList =
      '/' :: (['/'].intercalate (segments.map String.toList) ++ tail.toList) := by simp [pathOf]
  rw [← ht]
  exact Request.build?_slash (by simp [ht]) h

private theorem takeWhile_append_tail {α : Type} {p : α → Bool} {ys : List α}
    (h : ∀ y ∈ ys.head?, p y = false) (xs : List α) :
    (xs ++ ys).takeWhile p = xs.takeWhile p := by
  induction xs with
  | nil => cases ys <;> simp_all
  | cons x xs ih => by_cases hx : p x <;> simp [hx, ih]

/-- The path ends with the segments, or at the first character in them that ends it. -/
private theorem build?_path (ht : tail = "" ∨ tail = "?")
    (h : Request.build? method (pathOf segments ++ tail) body = some r) :
    r.path = String.ofList
      ('/' :: (['/'].intercalate (segments.map String.toList)).takeWhile (!Http.endsPath ·)) := by
  obtain ⟨t, hc, rfl⟩ := build?_eq_some h
  have he : ∀ c ∈ tail.toList.head?, (!Http.endsPath c) = false := by
    rcases ht with rfl | rfl <;> simp [Http.endsPath]
  rw [(Http.Target.ofChars_eq_ok hc).1, List.takeWhile_cons_of_pos rfl, takeWhile_append_tail he]

/-- The target leads to the segments just when none of them has a character that ends one. -/
private theorem isAt_iff (hs : segments ≠ []) (ht : tail = "" ∨ tail = "?")
    (h : Request.build? method (pathOf segments ++ tail) body = some r) :
    r.IsAt segments ↔ ∀ s ∈ segments, IsSegment s := by
  have hp := build?_path ht h
  constructor
  · rintro ⟨hr, -⟩ s hs
    rw [hp, segments_ofList] at hr
    rw [← hr] at hs
    obtain ⟨part, hpart, rfl⟩ := List.mem_map.1 hs
    rw [IsSegment, String.toList_ofList, List.all_eq_true]
    intro c hc
    obtain ⟨hm, hne⟩ := Text.mem_of_mem_splitAll hpart hc
    have := List.mem_takeWhile_imp hm
    simp_all [endsSegment]
  · intro hw
    have inner : ∀ c ∈ ['/'].intercalate (segments.map String.toList),
        (!Http.endsPath c) = true := by
      refine forall_mem_intercalate (P := fun c => (!Http.endsPath c) = true) rfl
        fun part hpart c hc => ?_
      obtain ⟨s, hs, rfl⟩ := List.mem_map.1 hpart
      have := List.all_eq_true.1 (hw s hs) c hc
      simp_all [endsSegment]
    constructor
    case path =>
      rw [hp, segments_ofList, List.takeWhile_eq_self_iff.2 inner, Text.splitAll_eq_splitOn,
        List.splitOn_intercalate]
      · simp
      · intro part hpart hslash
        obtain ⟨s, hs, rfl⟩ := List.mem_map.1 hpart
        have := List.all_eq_true.1 (hw s hs) _ hslash
        simp [endsSegment] at this
      · simpa using hs
    case query =>
      obtain ⟨t, hc, rfl⟩ := build?_eq_some h
      have hq := (Http.Target.ofChars_eq_ok hc).2
      rw [List.dropWhile_cons_of_pos rfl, List.dropWhile_append_of_pos inner] at hq
      rcases ht with rfl | rfl <;> simp_all [Http.endsPath]

end

/-- Something that is asked about one object: to read or to change it. -/
inductive Errand where
  /-- The member under an id. -/
  | member (id : String)
  /-- A change of the status of a member. -/
  | status (id : String) (change : Status.Patch)
  /-- The deployment under a name. -/
  | deployment (ns name : String)
  /-- The deletion of a deployment. -/
  | deletion (ns name : String)
  /-- A change of the number of replicas of a deployment. -/
  | scaling (ns : String) (draft : Deployment.Draft)

namespace Errand

/-- The request that is sent, if there is one. -/
def request? : Errand → Option Request
  | member id => (Registry.Call.get id).request?
  | status id change => (Registry.Call.patch id change).request?
  | deployment ns name => (Deployment.getRequest ns name).toOption
  | deletion ns name => (Deployment.deleteRequest ns name).toOption
  | scaling ns draft => (Deployment.applyRequest ns draft .scale).toOption

/-- The names in the target. -/
def names : Errand → List String
  | member id | status id _ => [id]
  | deployment ns name | deletion ns name => [ns, name]
  | scaling ns draft => [ns, draft.name]

/-- The segments of the path that is meant. -/
def segments : Errand → List String
  | member id => ["apis", "kubecloud.io", "v1alpha1", "clusters", id]
  | status id _ => ["apis", "kubecloud.io", "v1alpha1", "clusters", id, "status"]
  | deployment ns name | deletion ns name =>
    ["apis", "apps", "v1", "namespaces", ns, "deployments", name]
  | scaling ns draft => ["apis", "apps", "v1", "namespaces", ns, "deployments", draft.name]

variable {e other : Errand} {r : Request}

private theorem item_eq_pathOf (id : String) :
    Registry.item id = pathOf ["apis", "kubecloud.io", "v1alpha1", "clusters", id] := by
  apply String.toList_inj.1
  simp [Registry.item, Registry.collection, pathOf, List.intercalate_cons_cons]

private theorem status_eq_pathOf (id : String) : Registry.item id ++ "/status?" =
    pathOf ["apis", "kubecloud.io", "v1alpha1", "clusters", id, "status"] ++ "?" := by
  apply String.toList_inj.1
  simp [Registry.item, Registry.collection, pathOf, List.intercalate_cons_cons]

private theorem deployment_eq_pathOf (ns name : String) : Deployment.item ns name =
    pathOf ["apis", "apps", "v1", "namespaces", ns, "deployments", name] := by
  apply String.toList_inj.1
  rw [Deployment.item, String.toList_append, String.toList_append, Deployment.toList_collection]
  simp [pathOf, List.intercalate_cons_cons]

private theorem named_eq_ok {name : String} {built : Option Request}
    (h : (Deployment.named name built).toOption = some r) : built = some r := by
  unfold Deployment.named Deployment.sendable at h
  split at h
  · cases h
  · cases built <;> simp_all [Except.toOption]

/-- A request has the path that is meant as its target, with or without a question mark. -/
private theorem request?_eq_build? (h : e.request? = some r) : ∃ method tail body,
    (tail = "" ∨ tail = "?") ∧
      Request.build? method (pathOf e.segments ++ tail) body = some r := by
  cases e with
  | member id =>
    rw [request?, Registry.Call.request?, item_eq_pathOf] at h
    split at h
    · cases h
    · exact ⟨_, "", _, .inl rfl, by simpa [segments] using h⟩
  | status id change =>
    rw [request?, Registry.Call.request?, status_eq_pathOf] at h
    split at h
    · cases h
    · exact ⟨_, "?", _, .inr rfl, h⟩
  | deployment ns name =>
    rw [request?, Deployment.getRequest, deployment_eq_pathOf] at h
    exact ⟨_, "", _, .inl rfl, by simpa [segments] using named_eq_ok h⟩
  | deletion ns name =>
    rw [request?, Deployment.deleteRequest, deployment_eq_pathOf] at h
    exact ⟨_, "?", _, .inr rfl, named_eq_ok h⟩
  | scaling ns draft =>
    rw [request?, Deployment.applyRequest, Deployment.scaleRequest, deployment_eq_pathOf] at h
    cases hr : draft.replicas with
    | none =>
      rw [hr] at h
      cases h
    | some n =>
      cases hp : Deployment.scalePatch n with
      | error fault =>
        simp only [hr, hp] at h
        cases h
      | ok patch =>
        simp only [hr, hp] at h
        exact ⟨_, "?", _, .inr rfl, named_eq_ok h⟩

private theorem segments_ne_nil (e : Errand) : e.segments ≠ [] := by
  cases e <;> simp [segments]

private theorem isSegment_segments_iff :
    (∀ s ∈ e.segments, IsSegment s) ↔ ∀ name ∈ e.names, IsSegment name := by
  have fixed : ∀ s ∈ ["apis", "kubecloud.io", "v1alpha1", "clusters", "status", "apps", "v1",
      "namespaces", "deployments"], IsSegment s := by decide
  cases e <;> simp_all [segments, names]

private theorem names_eq_of_segments_eq (h : e.segments = other.segments) :
    e.names = other.names := by
  cases e <;> cases other <;> simp_all [segments, names]

/-- Where a request goes that is sent for an errand. -/
structure IsAimed (e : Errand) (r : Request) : Prop where
  /-- The path ends with what is meant, or at the first character in it that ends a path. -/
  path : r.path.toList = (pathOf e.segments).toList.takeWhile (!Http.endsPath ·)
  /-- The target is what is meant, with nothing in the query, just when every name stays whole. -/
  whole : r.IsAt e.segments ↔ ∀ name ∈ e.names, IsSegment name
  /-- No other names that stay whole lead to the same path. -/
  apart : (∀ name ∈ e.names, IsSegment name) → ∀ other s, request? other = some s →
    (∀ name ∈ other.names, IsSegment name) → s.path = r.path → other.names = e.names

/-- The names of an errand lead to its object just when they have none of the characters that end
a segment. -/
theorem request?_aimed (h : e.request? = some r) : e.IsAimed r := by
  obtain ⟨method, tail, body, ht, hb⟩ := request?_eq_build? h
  have whole {e : Errand} {r : Request} (h : e.request? = some r) :
      r.IsAt e.segments ↔ ∀ name ∈ e.names, IsSegment name := by
    obtain ⟨method, tail, body, ht, hb⟩ := request?_eq_build? h
    rw [isAt_iff e.segments_ne_nil ht hb, isSegment_segments_iff]
  constructor
  case path =>
    rw [build?_path ht hb, pathOf, String.toList_ofList, String.toList_ofList,
      List.takeWhile_cons_of_pos rfl]
  case whole => exact whole h
  case apart =>
    intro hn other s hs ho hp
    refine names_eq_of_segments_eq ?_
    rw [← ((whole hs).2 ho).path, hp, ((whole h).2 hn).path]

/-- The deletion of a deployment whose name starts with a question mark is sent to all deployments
of the namespace. -/
theorem request?_aimed_of_mark :
    let e := deletion "default" "?web"
    let r : Request := ⟨.delete, "/apis/apps/v1/namespaces/default/deployments/", some "web?",
      some (.json, .obj [])⟩
    e.request? = some r ∧ e.IsAimed r ∧ ¬ r.IsAt e.segments := by
  intro e r
  have h : e.request? = some r := rfl
  have aimed : e.IsAimed r := request?_aimed h
  exact ⟨h, aimed, fun hr => absurd (aimed.whole.1 hr) (by decide)⟩

/-- Not every request leads to what is meant, and two ids may be asked for with one request. -/
theorem request?_not_always_isAt :
    (¬ ∀ e r, (∀ name ∈ e.names, name ≠ "") → request? e = some r → r.IsAt e.segments) ∧
      ¬ ∀ id id' r r', (member id).request? = some r → (member id').request? = some r' →
        r.path = r'.path → id = id' := by
  let r : Request := ⟨.get, "/apis/kubecloud.io/v1alpha1/clusters/edge", none, none⟩
  have hm : (member "edge#1").request? = some r := rfl
  have he : (member "edge").request? = some r := rfl
  constructor
  · intro h
    have hp := (h _ r (by decide) hm).path
    exact absurd hp (by decide)
  · intro h
    exact absurd (h _ _ r r hm he rfl) (by decide)

end Errand

end Kube
end MultiCluster
