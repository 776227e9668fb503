import MultiCluster.Json.Decode

/-! What a record is read from: the members of an object that have the name of a field. -/
namespace MultiCluster

/-- What two steps that may fail come to. -/
theorem bind_eq_ok_iff {ε α β : Type} {x : Except ε α} {f : α → Except ε β} {b : β} :
    (x >>= f) = .ok b ↔ ∃ a, x = .ok a ∧ f a = .ok b := by
  cases x with
  | error e =>
    constructor
    · rintro ⟨⟩
    · rintro ⟨a, ⟨⟩, -⟩
  | ok a => simp [bind, Except.bind]

theorem eq_ok_of_toOption {ε α : Type} {x : Except ε α} {a : α} (h : x.toOption = some a) :
    x = .ok a := by
  cases x <;> cases h
  rfl

/-- A step for each item of a list comes to something when each of the steps does. -/
theorem mapM_eq_ok_iff {ε α β : Type} {f : α → Except ε β} {xs : List α} :
    (∃ ys, xs.mapM f = .ok ys) ↔ ∀ x ∈ xs, ∃ y, f x = .ok y := by
  induction xs with
  | nil => exact ⟨fun _ _ h => absurd h List.not_mem_nil, fun _ => ⟨[], rfl⟩⟩
  | cons x xs ih =>
    rw [List.forall_mem_cons, ← ih]
    constructor
    · rintro ⟨_, h⟩
      rw [List.mapM_cons] at h
      obtain ⟨y, hy, h⟩ := bind_eq_ok_iff.1 h
      obtain ⟨ys, hys, -⟩ := bind_eq_ok_iff.1 h
      exact ⟨⟨y, hy⟩, ys, hys⟩
    · rintro ⟨⟨y, hy⟩, ys, hys⟩
      exact ⟨y :: ys, by rw [List.mapM_cons, hy, hys]; rfl⟩

namespace Json

/-- The values of the members with a key. -/
def given (key : String) (members : List (String × Json)) : List Json :=
  members.filterMap fun m => if m.1 = key then some m.2 else none

theorem given_cons (key : String) (m : String × Json) (members : List (String × Json)) :
    given key (m :: members) = (if m.1 = key then [m.2] else []) ++ given key members := by
  by_cases h : m.1 = key <;> simp [given, h]

theorem given_append (key : String) (front back : List (String × Json)) :
    given key (front ++ back) = given key front ++ given key back :=
  List.filterMap_append

/-- The members that are left without those with a key. -/
theorem given_filter_ne (key other : String) (members : List (String × Json)) :
    given other (members.filter (·.1 != key)) = if other = key then [] else given other members := by
  induction members with
  | nil => simp [given]
  | cons m members ih =>
    rw [List.filter_cons]
    by_cases h : m.1 = key <;> by_cases ho : other = key
    · simpa [h, ho] using ih
    · simpa [h, ho, given_cons, Ne.symm ho] using ih
    · simpa [h, ho, given_cons] using ih
    · simpa [h, ho, given_cons] using ih

/-- A member is put in where there is none with its key. -/
theorem given_putMember {key : String} {members : List (String × Json)}
    (h : given key members = []) (other : String) (value : Json) :
    given other (putMember key value members) =
      if other = key then [value] else given other members := by
  induction members with
  | nil =>
    by_cases ho : other = key
    · simp [putMember, given, ho]
    · simp [putMember, given, ho, Ne.symm ho]
  | cons m members ih =>
    obtain ⟨k, j⟩ := m
    rw [given_cons] at h
    obtain ⟨hk, hr⟩ := List.append_eq_nil_iff.1 h
    have hk : k ≠ key := by simpa using hk
    unfold putMember
    by_cases ho : other = key
    · subst ho
      split <;> simp [given_cons, hk, hk.symm, hr, ih hr]
    · split <;> simp [given_cons, hk.symm, ho, Ne.symm ho, ih hr]

theorem lookup_eq_head? (key : String) (members : List (String × Json)) :
    members.lookup key = (given key members).head? := by
  induction members with
  | nil => rfl
  | cons m members ih =>
    obtain ⟨k, j⟩ := m
    rw [given_cons, List.lookup_cons]
    by_cases h : k = key
    · simp [h]
    · simp [h, beq_false_of_ne (Ne.symm h), ih]

section

variable (g : String → Json → Json) (key : String) (members : List (String × Json))

/-- Members whose values are changed, each by its key, here and in the lemma below. -/
theorem given_mapped : given key (members.map fun m => (m.1, g m.1 m.2)) =
    (given key members).map (g key) := by
  induction members with
  | nil => rfl
  | cons m members ih =>
    rw [List.map_cons, given_cons, given_cons, ih, List.map_append]
    by_cases h : m.1 = key <;> simp [h]

theorem lookup_mapped : (members.map fun m => (m.1, g m.1 m.2)).lookup key =
    (members.lookup key).map (g key) := by
  rw [lookup_eq_head?, lookup_eq_head?, given_mapped, List.head?_map]

end

/-- Of members with distinct keys there is at most one with a key. -/
theorem length_given_le {members : List (String × Json)} (h : (members.map (·.1)).Nodup)
    (key : String) : (given key members).length ≤ 1 := by
  induction members with
  | nil => exact Nat.zero_le _
  | cons m members ih =>
    obtain ⟨fresh, rest⟩ := List.nodup_cons.1 h
    rw [given_cons]
    split
    · next hk =>
      have none : given key members = [] := by
        rw [given, List.filterMap_eq_nil_iff]
        intro m' hm'
        exact if_neg fun hk' => fresh (List.mem_map.2 ⟨m', hm', hk'.trans hk.symm⟩)
      rw [none]
      exact Nat.le_refl 1
    · exact ih rest

theorem areItemsReadable_iff {items : List Json} :
    areItemsReadable items = true ↔ ∀ j ∈ items, j.isReadable = true := by
  induction items with
  | nil => simp [areItemsReadable]
  | cons j items ih => simp [areItemsReadable, ih]

theorem areMembersReadable_iff {members : List (String × Json)} :
    areMembersReadable members = true ↔ ∀ m ∈ members, m.2.isReadable = true := by
  induction members with
  | nil => simp [areMembersReadable]
  | cons m members ih => simp [areMembersReadable, ih]

namespace Decode

variable {α : Type}

/-- A field is read from the only member with its name. -/
theorem memberOf_eq (key : String) (members : List (String × Json)) :
    memberOf members [key] = match given key members with
      | [] => .ok none
      | [j] => .ok (some j)
      | _ => .error (.repeated key) := by
  have hf : (members.filter fun m => [key].contains m.1) =
      (given key members).map fun j => (key, j) := by
    induction members with
    | nil => rfl
    | cons m members ih =>
      obtain ⟨k, j⟩ := m
      rw [given_cons]
      by_cases h : k = key
      · subst h
        simpa using ih
      · simpa [h] using ih
  rw [memberOf, hf]
  match given key members with
  | [] => rfl
  | [j] => rfl
  | _ :: _ :: _ => rfl

theorem memberOf_eq_ok_iff {key : String} {members : List (String × Json)} {v : Option Json} :
    memberOf members [key] = .ok v ↔ given key members = v.toList := by
  rw [memberOf_eq]
  match given key members with
  | [] => cases v <;> simp
  | [j] => cases v <;> simp
  | _ :: _ :: _ => cases v <;> simp

theorem memberOf_of_given {key : String} {members : List (String × Json)} {j : Json}
    (h : given key members = [j]) : memberOf members [key] = .ok (some j) :=
  memberOf_eq_ok_iff.2 h

theorem record_obj {expected : String} {names : List (List String)}
    {build : Fields → Except Fault α} {members : List (String × Json)} {values : List (Option Json)}
    (h : names.mapM (memberOf members) = .ok values) :
    record expected names build (.obj members) = build ⟨values, none⟩ := by
  rw [record, h]
  rfl

theorem required_eq {f : Fields} {i : Nat} {j : Json} (h : f.values[i]?.join = some j)
    (name : String) (item : Decoder α) : f.required i name item = item j := by
  cases hj : item j <;>
    simp [Fields.required, Fields.optional, Fields.value?, Fields.present, h, hj, Except.map, bind,
      Except.bind]

theorem nullable_eq {f : Fields} (hf : f.position = none) (i : Nat) (name : String)
    (item : Decoder α) : f.nullable i name item = match f.values[i]?.join with
      | none => .ok none
      | some j => Decode.nullable item j := by
  cases h : f.values[i]?.join with
  | none => simp [Fields.nullable, Fields.value?, hf, h]
  | some j => simp [Fields.nullable, Fields.value?, hf, h, required_eq h]

theorem withDefault_eq (f : Fields) (i : Nat) (item : Decoder α) (default : α) :
    f.withDefault i item default = match f.values[i]?.join with
      | none => .ok default
      | some j => item j := by
  cases h : f.values[i]?.join with
  | none => simp [Fields.withDefault, Fields.optional, Fields.value?, h, Except.map]
  | some j => cases hj : item j <;>
      simp [Fields.withDefault, Fields.optional, Fields.value?, h, hj, Except.map]

/-- What a field with a default holds: the default if there is no member, or what the only member
is read as. -/
def Holds (item : Decoder α) (default : α) (given : List Json) (a : α) : Prop :=
  given = [] ∧ a = default ∨ ∃ j, given = [j] ∧ item j = .ok a

/-- The two steps of reading a field with a default. -/
theorem holds_iff {key : String} {members : List (String × Json)} {item : Decoder α}
    {default a : α} : Holds item default (given key members) a ↔ ∃ v,
      memberOf members [key] = .ok v ∧
        (match v with
          | none => .ok default
          | some j => item j) = (.ok a : Except Fault α) := by
  simp only [memberOf_eq_ok_iff]
  constructor
  · rintro (⟨h, rfl⟩ | ⟨j, h, hj⟩)
    · exact ⟨none, h, rfl⟩
    · exact ⟨some j, h, hj⟩
  · rintro ⟨_ | j, h, hj⟩
    · exact .inl ⟨h, (Except.ok.inj hj).symm⟩
    · exact .inr ⟨j, h, hj⟩

end Decode
end Json
end MultiCluster
