import MultiCluster.Proofs.Json.Merge
import MultiCluster.Status

/-! Changing a status in place, and sending the change as a merge patch for its JSON form. -/
namespace MultiCluster

theorem Health.ofJson_toJson (h : Health) : ofJson h.toJson = .ok h := by
  cases h <;> rfl

namespace Status

open Json (given)
open Json.Decode (Holds)

/-- What a status is read from. -/
theorem ofJson_obj_iff {members : List (String × Json)} {s : Status} :
    ofJson (.obj members) = .ok s ↔
      Holds Json.Decode.int64 0 (given "cpu_capacity" members) s.cpuCapacity ∧
      Holds Json.Decode.int64 0 (given "memory_capacity" members) s.memoryCapacity ∧
      Holds Json.Decode.int64 0 (given "cpu_usage" members) s.cpuUsage ∧
      Holds Json.Decode.int64 0 (given "memory_usage" members) s.memoryUsage ∧
      Holds Health.ofJson .unknown (given "health" members) s.health := by
  obtain ⟨cpuOf, memoryOf, cpu, memory, health⟩ := s
  simp only [ofJson, Json.Decode.record, List.mapM_cons, List.mapM_nil, bind_eq_ok_iff,
    Json.Decode.holds_iff, Json.Decode.withDefault_eq, pure, Except.pure, Except.ok.injEq,
    Status.mk.injEq]
  constructor
  · rintro ⟨-, ⟨v, hv, -, ⟨w, hw, -, ⟨x, hx, -, ⟨y, hy, -, ⟨z, hz, -, rfl, rfl⟩, rfl⟩, rfl⟩, rfl⟩,
      rfl⟩, a, ha, b, hb, c, hc, d, hd, e, he, rfl, rfl, rfl, rfl, rfl⟩
    exact ⟨⟨v, hv, ha⟩, ⟨w, hw, hb⟩, ⟨x, hx, hc⟩, ⟨y, hy, hd⟩, ⟨z, hz, he⟩⟩
  · rintro ⟨⟨v, hv, ha⟩, ⟨w, hw, hb⟩, ⟨x, hx, hc⟩, ⟨y, hy, hd⟩, ⟨z, hz, he⟩⟩
    exact ⟨_, ⟨v, hv, _, ⟨w, hw, _, ⟨x, hx, _, ⟨y, hy, _, ⟨z, hz, _, rfl, rfl⟩, rfl⟩, rfl⟩, rfl⟩,
      rfl⟩, _, ha, _, hb, _, hc, _, hd, _, he, rfl, rfl, rfl, rfl, rfl⟩

namespace Patch

/-- Whether the numbers are within 64 bits. -/
def Fits (p : Patch) : Prop :=
  ∀ value ∈ [p.cpuUsage, p.memoryUsage, p.cpuCapacity, p.memoryCapacity], ∀ i ∈ value,
    Word.least 64 ≤ i ∧ i ≤ Word.greatest 64

instance (p : Patch) : Decidable p.Fits :=
  inferInstanceAs (Decidable (∀ value ∈ [p.cpuUsage, p.memoryUsage, p.cpuCapacity,
    p.memoryCapacity], ∀ i ∈ value, Word.least 64 ≤ i ∧ i ≤ Word.greatest 64))

private theorem int64_int {i : Int} (h : Word.least 64 ≤ i ∧ i ≤ Word.greatest 64) :
    Json.Decode.int64 (.int i) = .ok i := by
  rw [Json.Decode.int64, Json.Decode.intBetween, if_pos h]

/-- The members that a patch leads to. -/
def merged (p : Patch) (members : List (String × Json)) : List (String × Json) :=
  Json.setMember? "health" (p.health.map Health.toJson)
    (Json.setMember? "memory_capacity" (p.memoryCapacity.map .int)
      (Json.setMember? "cpu_capacity" (p.cpuCapacity.map .int)
        (Json.setMember? "memory_usage" (p.memoryUsage.map .int)
          (Json.setMember? "cpu_usage" (p.cpuUsage.map .int) members))))

private theorem mergeMembers_documentMember {α : Type} (key : String) (value : Option α)
    {write : α → Json} (hw : ∀ a, (write a).isAtom = true) (members rest : List (String × Json)) :
    Json.mergeMembers members (documentMember key (value.map write) ++ rest) =
      Json.mergeMembers (Json.setMember? key (value.map write) members) rest := by
  cases value with
  | none => rfl
  | some a => exact Json.mergeMembers_atom (hw a) key members rest

theorem mergePatch_toJson (p : Patch) (target : Json) :
    Json.mergePatch target p.toJson = .obj (p.merged (target.members?.getD [])) := by
  have int (i : Int) : (Json.int i).isAtom = true := rfl
  have health (h : Health) : h.toJson.isAtom = true := rfl
  rw [toJson, Json.mergePatch, merged]
  simp only [List.append_assoc, mergeMembers_documentMember _ _ int]
  rw [← List.append_nil (documentMember "health" _), mergeMembers_documentMember _ _ health,
    Json.mergeMembers]

/-- A merged patch is read as the status that it is applied to in place. -/
theorem ofJson_merged {p : Patch} (hp : p.Fits) {members : List (String × Json)} {s : Status}
    (h : ofJson (.obj members) = .ok s) : ofJson (.obj (p.merged members)) = .ok (p.apply s) := by
  obtain ⟨hcc, hmc, hcu, hmu, hh⟩ := ofJson_obj_iff.1 h
  simp only [Fits, List.forall_mem_cons] at hp
  obtain ⟨fcu, fmu, fcc, fmc, -⟩ := hp
  rw [ofJson_obj_iff]
  simp (disch := decide) only [merged, Json.given_setMember?_of_ne]
  refine ⟨.setMember? ?_ fun i hi => int64_int (fcc i hi),
    .setMember? ?_ fun i hi => int64_int (fmc i hi),
    .setMember? hcu fun i hi => int64_int (fcu i hi),
    .setMember? ?_ fun i hi => int64_int (fmu i hi), .setMember? ?_ fun h _ => h.ofJson_toJson⟩
  all_goals simpa (disch := decide) only [Json.given_setMember?_of_ne]

end Patch
end Status
end MultiCluster
