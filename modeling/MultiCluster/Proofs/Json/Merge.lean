import MultiCluster.Proofs.Json.Fields

/-! Merging a patch into a value, by the rules for merge patches. -/
namespace MultiCluster.Json

/-- Puts a member in place of the first one with its key, or behind the others. -/
def setMember (key : String) (value : Json) : List (String × Json) → List (String × Json)
  | [] => [(key, value)]
  | m :: rest => if m.1 = key then (key, value) :: rest else m :: setMember key value rest

mutual

/-- A value that is no object takes the place of the target; an object changes the members that it
names, of an empty object if the target is none. -/
def mergePatch (target : Json) : Json → Json
  | .obj changes => .obj (mergeMembers (target.members?.getD []) changes)
  | patch => patch

/-- Null removes a member; any other value is merged into the one there is, or into null. -/
def mergeMembers (members : List (String × Json)) : List (String × Json) → List (String × Json)
  | [] => members
  | (key, .null) :: rest => mergeMembers (members.filter (·.1 ≠ key)) rest
  | (key, value) :: rest =>
    mergeMembers (setMember key (mergePatch ((members.lookup key).getD .null) value) members) rest

end

theorem given_setMember (key : String) (value : Json) (members : List (String × Json)) :
    given key (setMember key value members) = value :: (given key members).tail := by
  induction members with
  | nil => simp [setMember, given]
  | cons m members ih =>
    by_cases h : m.1 = key
    · simp [setMember, given_cons, h]
    · simp [setMember, given_cons, h, ih]

theorem given_setMember_of_ne {key other : String} (h : key ≠ other) (value : Json)
    (members : List (String × Json)) :
    given other (setMember key value members) = given other members := by
  induction members with
  | nil => simp [setMember, given, h]
  | cons m members ih =>
    by_cases hm : m.1 = key
    · simp [setMember, given_cons, hm, h]
    · simp [setMember, given_cons, hm, ih]

/-- A member is changed where it stands. -/
theorem setMember_append {key : String} {front : List (String × Json)} (h : given key front = [])
    (value old : Json) (back : List (String × Json)) :
    setMember key value (front ++ (key, old) :: back) = front ++ (key, value) :: back := by
  induction front with
  | nil => simp [setMember]
  | cons m front ih =>
    rw [given_cons] at h
    by_cases hm : m.1 = key
    · simp [hm] at h
    · simp only [hm, if_false, List.nil_append] at h
      simp [setMember, hm, ih h]

theorem setMember_of_absent {key : String} {members : List (String × Json)}
    (h : given key members = []) (value : Json) :
    setMember key value members = members ++ [(key, value)] := by
  induction members with
  | nil => rfl
  | cons m members ih =>
    rw [given_cons] at h
    by_cases hm : m.1 = key
    · simp [hm] at h
    · simp only [hm, if_false, List.nil_append] at h
      simp [setMember, hm, ih h]

/-- Whether a value is put in as it is, whatever it is merged into. -/
def isAtom : Json → Bool
  | .null | .obj _ => false
  | _ => true

theorem mergeMembers_cons {value : Json} (h : value ≠ .null) (key : String)
    (members rest : List (String × Json)) : mergeMembers members ((key, value) :: rest) =
      mergeMembers (setMember key (mergePatch ((members.lookup key).getD .null) value) members)
        rest := by
  cases value <;> first | rfl | exact absurd rfl h

theorem mergeMembers_atom {value : Json} (h : value.isAtom = true) (key : String)
    (members rest : List (String × Json)) : mergeMembers members ((key, value) :: rest) =
      mergeMembers (setMember key value members) rest := by
  have hn : value ≠ .null := by
    rintro rfl
    cases h
  have hm (target : Json) : mergePatch target value = value := by
    cases value <;> first | rfl | cases h
  rw [mergeMembers_cons hn, hm]

/-- Puts a member if there is a value for it. -/
def setMember? (key : String) : Option Json → List (String × Json) → List (String × Json)
  | none, members => members
  | some value, members => setMember key value members

theorem given_setMember?_of_ne {key other : String} (h : key ≠ other) (value : Option Json)
    (members : List (String × Json)) :
    given other (setMember? key value members) = given other members := by
  cases value with
  | none => rfl
  | some value => exact given_setMember_of_ne h value members

theorem setMember?_cons_of_ne {key other : String} (h : other ≠ key) (value : Option Json)
    (j : Json) (members : List (String × Json)) :
    setMember? key value ((other, j) :: members) = (other, j) :: setMember? key value members := by
  cases value with
  | none => rfl
  | some value => simp [setMember?, setMember, h]

theorem setMember?_cons_self {α : Type} (key : String) (write : α → Json) (value : Option α)
    (old : α) (members : List (String × Json)) :
    setMember? key (value.map write) ((key, write old) :: members) =
      (key, write (value.getD old)) :: members := by
  cases value with
  | none => rfl
  | some a => simp [setMember?, setMember]

open Decode in
/-- A field that is put in holds what was put. -/
theorem Decode.Holds.setMember? {α : Type} {key : String} {members : List (String × Json)}
    {item : Decoder α} {default a : α} (h : Holds item default (given key members) a)
    {write : α → Json} {value : Option α} (hw : ∀ b ∈ value, item (write b) = .ok b) :
    Holds item default (given key (setMember? key (value.map write) members)) (value.getD a) := by
  cases value with
  | none => exact h
  | some b =>
    refine .inr ⟨write b, ?_, hw b rfl⟩
    rw [Option.map_some, Json.setMember?, given_setMember]
    rcases h with ⟨hg, -⟩ | ⟨j, hg, -⟩
    · rw [hg, List.tail_nil]
    · rw [hg, List.tail_cons]

end MultiCluster.Json
