import MultiCluster.Proofs.Status
import MultiCluster.Totals

/-! Patches of a status: what they do in place is what their documents do to the JSON form, one
after the other they are one patch, and apart from each other they may come in any order. -/
namespace MultiCluster.Status

open Json (given)

/-- What a status tells, and what a patch may change. -/
inductive Field where
  | cpuCapacity
  | memoryCapacity
  | cpuUsage
  | memoryUsage
  | health

/-- What the status has in a field. -/
def value (s : Status) : Field → Int ⊕ Health
  | .cpuCapacity => .inl s.cpuCapacity
  | .memoryCapacity => .inl s.memoryCapacity
  | .cpuUsage => .inl s.cpuUsage
  | .memoryUsage => .inl s.memoryUsage
  | .health => .inr s.health

theorem eq_of_value_eq {s t : Status} (h : ∀ f, s.value f = t.value f) : s = t := by
  have hcc := h .cpuCapacity
  have hmc := h .memoryCapacity
  have hcu := h .cpuUsage
  have hmu := h .memoryUsage
  have hh := h .health
  obtain ⟨_, _, _, _, _⟩ := s
  obtain ⟨_, _, _, _, _⟩ := t
  simp_all [value]

namespace Patch

/-- What the patch has for a field, if it names the field. -/
def value? (p : Patch) : Field → Option (Int ⊕ Health)
  | .cpuCapacity => p.cpuCapacity.map .inl
  | .memoryCapacity => p.memoryCapacity.map .inl
  | .cpuUsage => p.cpuUsage.map .inl
  | .memoryUsage => p.memoryUsage.map .inl
  | .health => p.health.map .inr

/-- What another patch has for a field, and where that has nothing, what this one has. -/
def followedBy (p q : Patch) : Patch where
  cpuUsage := q.cpuUsage.or p.cpuUsage
  memoryUsage := q.memoryUsage.or p.memoryUsage
  cpuCapacity := q.cpuCapacity.or p.cpuCapacity
  memoryCapacity := q.memoryCapacity.or p.memoryCapacity
  health := q.health.or p.health

/-- Whether there is no field that both patches name. -/
def IsApart (p q : Patch) : Prop := ∀ f, p.value? f = none ∨ q.value? f = none

@[simp]
theorem value_apply (p : Patch) (s : Status) (f : Field) :
    (p.apply s).value f = (p.value? f).getD (s.value f) := by
  cases f <;> simp [apply, value, value?, Option.getD_map]

@[simp]
theorem value?_followedBy (p q : Patch) (f : Field) :
    (p.followedBy q).value? f = (q.value? f).or (p.value? f) := by
  cases f <;> simp [followedBy, value?, Option.map_or]

theorem apply_apply (p q : Patch) (s : Status) :
    q.apply (p.apply s) = (p.followedBy q).apply s := by
  apply eq_of_value_eq
  intro f
  cases h : q.value? f <;> simp [h]

/-- Patches one after the other are one patch. -/
theorem foldl_apply (p : Patch) (qs : List Patch) (s : Status) :
    qs.foldl (fun s q => q.apply s) (p.apply s) = (qs.foldl followedBy p).apply s := by
  induction qs generalizing p with
  | nil => rfl
  | cons q qs ih => rw [List.foldl_cons, apply_apply, ih, List.foldl_cons]

theorem apply_comm {p q : Patch} (h : p.IsApart q) (s : Status) :
    q.apply (p.apply s) = p.apply (q.apply s) := by
  apply eq_of_value_eq
  intro f
  rcases h f with hf | hf <;> simp [hf]

theorem apply_self (p : Patch) (s : Status) : p.apply (p.apply s) = p.apply s := by
  apply eq_of_value_eq
  intro f
  cases h : p.value? f <;> simp [h]

theorem isApart_patch_ofHealth (t : Totals) (h : Health) : t.patch.IsApart (ofHealth h) := by
  intro f
  cases f with
  | health => exact .inl rfl
  | _ => exact .inr rfl

/-- A patch that is merged into the JSON form of a status leads to that of the patched status. -/
theorem mergePatch_toJson_toJson (p : Patch) (s : Status) :
    Json.mergePatch s.toJson p.toJson = (p.apply s).toJson := by
  rw [mergePatch_toJson, Status.toJson, merged]
  simp (disch := decide) only [Json.members?, Option.getD_some, Json.setMember?_cons_of_ne,
    Json.setMember?_cons_self]
  rfl

/-- The document changes one member of the object that it is merged into. -/
theorem mergePatch_document (p : Patch) (members : List (String × Json)) :
    Json.mergePatch (.obj members) p.document = .obj (Json.setMember "status"
      (Json.mergePatch (((given "status" members).head?).getD .null) p.toJson) members) := by
  have hp : p.toJson ≠ .null := fun h => Json.noConfusion h
  rw [document, Json.mergePatch, Json.mergeMembers_cons hp, Json.mergeMembers,
    ← Json.lookup_eq_head?]
  rfl

/-- What a patch does in place, as a document and next to others. -/
structure IsMerge (p : Patch) : Prop where
  /-- Of an object that has the status, the document changes the status as the patch does. -/
  sent : ∀ s front back, given "status" front = [] →
    Json.mergePatch (.obj (front ++ ("status", s.toJson) :: back)) p.document =
      .obj (front ++ ("status", (p.apply s).toJson) :: back)
  /-- An object without a status gets one, which is read as the patched initial one. -/
  sentFirst : p.Fits → ∀ members, given "status" members = [] → ∃ j,
    Json.mergePatch (.obj members) p.document = .obj (members ++ [("status", j)]) ∧
      ofJson j = .ok (p.apply initial)
  /-- A patch and another one behind it are one patch. -/
  followed : ∀ q s, q.apply (p.apply s) = (p.followedBy q).apply s
  /-- So are this one and any number of others. -/
  followedByAll : ∀ (qs : List Patch) s,
    qs.foldl (fun s q => q.apply s) (p.apply s) = (qs.foldl followedBy p).apply s
  /-- The order of patches with no field in common does not matter. -/
  apart : ∀ q, p.IsApart q → ∀ s, q.apply (p.apply s) = p.apply (q.apply s)
  again : ∀ s, p.apply (p.apply s) = p.apply s
  /-- A field that the patch does not name stays as it is. -/
  kept : ∀ s f, p.value? f = none → (p.apply s).value f = s.value f

/-- To apply a patch is to send it; and totals and health never get into each other's way. -/
theorem apply_merges : (∀ p : Patch, p.IsMerge) ∧ ∀ (t : Totals) (h : Health) (s : Status),
    (ofHealth h).apply (t.patch.apply s) = t.patch.apply ((ofHealth h).apply s) := by
  refine ⟨fun p => ?_, fun t h s => apply_comm (isApart_patch_ofHealth t h) s⟩
  constructor
  case sent =>
    intro s front back hf
    have hg : given "status" (front ++ ("status", s.toJson) :: back) =
        s.toJson :: given "status" back := by
      rw [Json.given_append, hf, Json.given_cons]
      rfl
    rw [mergePatch_document, hg, Json.setMember_append hf, List.head?_cons, Option.getD_some,
      mergePatch_toJson_toJson]
  case sentFirst =>
    intro hp members hm
    refine ⟨.obj (p.merged []), ?_, ofJson_merged hp rfl⟩
    rw [mergePatch_document, hm, Json.setMember_of_absent hm, mergePatch_toJson]
    rfl
  case followed => exact p.apply_apply
  case followedByAll => exact p.foldl_apply
  case apart =>
    intro q h s
    exact apply_comm h s
  case again => exact p.apply_self
  case kept =>
    intro s f hf
    rw [value_apply, hf, Option.getD_none]

end Patch
end MultiCluster.Status
