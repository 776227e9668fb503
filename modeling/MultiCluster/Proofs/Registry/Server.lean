import MultiCluster.Proofs.Json.Order
import MultiCluster.Proofs.Registry.Request
import MultiCluster.Proofs.Status

/-! What a registry relies on of the API server that keeps its objects. -/
namespace MultiCluster.Registry

open Json (given)
open Kube (Reply Shape Transport)

/-- An object as a server keeps it: its name, what is wanted and, once it has been said, what is
known of it. -/
structure Stored where
  name : String
  spec : Json
  status : Option Json

namespace Stored

/-- The members of the object in full. -/
def members (o : Stored) : List (String × Json) :=
  [("metadata", .ofTexts [("name", o.name)]), ("spec", o.spec)] ++
    o.status.toList.map ("status", ·)

/-- The object with its status as a merge patch for the whole object leads to it. -/
def patched (document : Json) (o : Stored) : Stored :=
  { o with status := (Json.mergePatch (.obj o.members) document).member? "status" }

/-- A patch of the status is merged into the status alone. -/
theorem patched_document (p : Status.Patch) (o : Stored) : o.patched p.document =
    { o with status := some (.obj (p.merged ((o.status.bind Json.members?).getD []))) } := by
  have hp : p.toJson ≠ .null := fun h => Json.noConfusion h
  obtain ⟨name, spec, status⟩ := o
  cases status <;>
    simp [patched, members, Status.Patch.document, Json.mergePatch, Json.members?,
      Json.mergeMembers_cons hp, Json.mergeMembers, Json.setMember, Status.Patch.mergePatch_toJson,
      Json.member?, List.lookup_cons]

/-- Whether a value shows the object: the metadata have its name, and it has the spec of the object
and its status, if there is one, with their members in any order. -/
def IsShown (o : Stored) (j : Json) : Prop :=
  ∃ members metadata known, j = .obj members ∧ given "metadata" members = [metadata] ∧
    Shape.metadata.read metadata = some known ∧ known.textAt? ["name"] = some o.name ∧
    List.Forall₂ Json.Reorders (given "spec" members) [o.spec] ∧
    List.Forall₂ Json.Reorders (given "status" members) o.status.toList

/-- Whether two objects differ in the order of members alone. -/
structure Reorders (o o' : Stored) : Prop where
  name : o.name = o'.name
  spec : o.spec.Reorders o'.spec
  status : List.Forall₂ Json.Reorders o.status.toList o'.status.toList

theorem Reorders.refl (o : Stored) : o.Reorders o :=
  ⟨rfl, .refl _, Json.Reorders.forall₂_refl _⟩

end Stored

/-- Whether some objects are the others, in any order and with their members in any order. -/
def Keeps (os os' : List Stored) : Prop :=
  ∃ xs : List Stored, xs.Perm os ∧ List.Forall₂ Stored.Reorders xs os'

theorem Keeps.refl (os : List Stored) : Keeps os os :=
  ⟨os, .refl os, List.forall₂_same.2 fun o _ => .refl o⟩

/-- Whether a value is a list that shows the objects in their order. -/
def IsList (os : List Stored) (j : Json) : Prop :=
  ∃ members items, j = .obj members ∧ j.isReadable = true ∧ given "items" members = [.arr items] ∧
    (given "metadata" members = [] ∨ ∃ metadata, given "metadata" members = [metadata] ∧
      (Shape.listMetadata.read metadata).isSome) ∧
    List.Forall₂ Stored.IsShown os items

/-- An answer in time that reports success and holds such a value. -/
def Shows (limit : Span) (P : Json → Prop) (r : Reply) : Prop :=
  ∃ status body delay j, r = .answer status body delay ∧ Http.isSuccess status = true ∧
    r.isInTime limit = true ∧ Json.parseLenient? body = some j ∧ P j

/-- An answer in time that refuses with the code, which a report in it repeats. -/
def Refuses (limit : Span) (code : Nat) (r : Reply) : Prop :=
  ∃ body delay, r = .answer code body delay ∧ r.isInTime limit = true ∧
    ∀ report, (Json.parseLenient? body).map Kube.refusalOf = some (.ok report) → report.code = code

/-- A server that keeps objects by name, with the objects that it keeps in each of its states. It
answers in time. A list shows all objects in any order, what has no name is refused with 404, and
what has one already with 409; an object is created without a status, and a merge patch for its
status changes nothing else. The order of members is its own affair. -/
structure WellBehaved {σ : Type} (limit : Span) (send : Transport σ) (objects : σ → List Stored) :
    Prop where
  list : ∀ w, (∃ os, os.Perm (objects w) ∧ Shows limit (IsList os) (send listRequest w).1) ∧
    Keeps (objects (send listRequest w).2) (objects w)
  get_known : ∀ w, ∀ o ∈ objects w, Kube.IsName o.name →
    Shows limit o.IsShown (send (getRequest o.name) w).1 ∧
      Keeps (objects (send (getRequest o.name) w).2) (objects w)
  get_unknown : ∀ w id, Kube.IsName id → id ∉ (objects w).map (·.name) →
    Refuses limit 404 (send (getRequest id) w).1 ∧
      Keeps (objects (send (getRequest id) w).2) (objects w)
  create_known : ∀ w, ∀ o ∈ objects w, Kube.IsName o.name → ∀ r : Registration,
    Refuses limit 409 (send (createRequest o.name r) w).1 ∧
      Keeps (objects (send (createRequest o.name r) w).2) (objects w)
  create_unknown : ∀ w id, Kube.IsName id → id ∉ (objects w).map (·.name) → ∀ r : Registration,
    Shows limit (Stored.IsShown ⟨id, r.toJson, none⟩) (send (createRequest id r) w).1 ∧
      Keeps (objects (send (createRequest id r) w).2) (⟨id, r.toJson, none⟩ :: objects w)
  patch_known : ∀ w, ∀ o ∈ objects w, Kube.IsName o.name → ∀ p : Status.Patch, p.Fits →
    Shows limit (o.patched p.document).IsShown (send (patchRequest o.name p) w).1 ∧
      Keeps (objects (send (patchRequest o.name p) w).2) ((objects w).map fun x =>
        if x.name = o.name then x.patched p.document else x)
  patch_unknown : ∀ w id, Kube.IsName id → id ∉ (objects w).map (·.name) →
    ∀ p : Status.Patch, p.Fits → Refuses limit 404 (send (patchRequest id p) w).1 ∧
      Keeps (objects (send (patchRequest id p) w).2) (objects w)

end MultiCluster.Registry
