import Mathlib.Data.List.Forall2
import MultiCluster.Proofs.Json.Fields

/-! When typed reading of a JSON value succeeds, and what it reads, in terms of the value alone. -/
namespace MultiCluster

/-- A step for each item of a list comes to what the steps come to. -/
theorem mapM_eq_ok_iff_forall₂ {ε α β : Type} {f : α → Except ε β} {xs : List α} {ys : List β} :
    xs.mapM f = .ok ys ↔ List.Forall₂ (fun x y => f x = .ok y) xs ys := by
  induction xs generalizing ys with
  | nil =>
    rw [List.forall₂_nil_left_iff, List.mapM_nil]
    constructor
    · rintro ⟨⟩
      rfl
    · rintro rfl
      rfl
  | cons x xs ih =>
    rw [List.mapM_cons, bind_eq_ok_iff, List.forall₂_cons_left_iff]
    constructor
    · rintro ⟨y, hy, h⟩
      obtain ⟨zs, hzs, ⟨⟩⟩ := bind_eq_ok_iff.1 h
      exact ⟨y, zs, hy, ih.1 hzs, rfl⟩
    · rintro ⟨y, zs, hy, hzs, rfl⟩
      exact ⟨y, hy, bind_eq_ok_iff.2 ⟨zs, ih.2 hzs, rfl⟩⟩

namespace Json.Decode

variable {α : Type}

/-- The values of a record's fields: those of the members with the names, or of the items in the
order of the names. A member may be missing, and items may at the end; none may be too many. -/
inductive IsRecord (names : List String) : Json → List (Option Json) → Prop where
  | obj {members : List (String × Json)} {values : List (Option Json)} :
    List.Forall₂ (fun name value => given name members = value.toList) names values →
      IsRecord names (.obj members) values
  | arr {items : List Json} : items.length ≤ names.length →
    IsRecord names (.arr items)
      (items.map some ++ List.replicate (names.length - items.length) none)

theorem IsRecord.length_eq {names : List String} {j : Json} {values : List (Option Json)}
    (h : IsRecord names j values) : values.length = names.length := by
  cases h with
  | obj h => exact h.length_eq.symm
  | arr h =>
    rw [List.length_append, List.length_map, List.length_replicate]
    exact Nat.add_sub_of_le h

/-- The members of an object give the fields of a record, if none of them comes twice. -/
theorem isRecord_obj_iff {names : List String} {members : List (String × Json)}
    {values : List (Option Json)} : IsRecord names (.obj members) values ↔
      (∀ name ∈ names, (given name members).length ≤ 1) ∧
        names.map (fun name => members.lookup name) = values := by
  have single (name : String) (value : Option Json) : given name members = value.toList ↔
      (given name members).length ≤ 1 ∧ members.lookup name = value := by
    rw [lookup_eq_head?]
    match given name members with
    | [] => cases value <;> simp
    | [j] => cases value <;> simp
    | _ :: _ :: _ => cases value <;> simp
  have whole : IsRecord names (.obj members) values ↔
      List.Forall₂ (fun name value => given name members = value.toList) names values :=
    ⟨fun h => by cases h; assumption, .obj⟩
  simp only [whole, single]
  rw [List.forall₂_and_left, ← List.forall₂_map_left_iff (R := Eq), List.forall₂_eq_eq_eq]

/-- The items of an array give the first fields of a record. -/
theorem isRecord_arr_iff {names : List String} {items : List Json} {values : List (Option Json)} :
    IsRecord names (.arr items) values ↔ items.length ≤ names.length ∧
      (List.range names.length).map (fun i => items[i]?) = values := by
  have padded (h : items.length ≤ names.length) :
      (List.range names.length).map (fun i => items[i]?) =
        items.map some ++ List.replicate (names.length - items.length) none := by
    apply List.ext_getElem
    · simp only [List.length_map, List.length_range, List.length_append, List.length_replicate]
      omega
    · intro i _ _
      simp only [List.getElem_map, List.getElem_range, List.getElem_append, List.length_map,
        List.getElem_replicate]
      split
      · next h => exact List.getElem?_eq_getElem h
      · next h => exact List.getElem?_eq_none (Nat.le_of_not_lt h)
  constructor
  · rintro (_ | h)
    exact ⟨h, padded h⟩
  · rintro ⟨h, rfl⟩
    rw [padded h]
    exact .arr h

/-- What a value is read as, or the default where there is none. -/
def OrDefault (IsRead : Json → α → Prop) (default : α) : Option Json → α → Prop
  | none, a => a = default
  | some j, a => IsRead j a

/-- What a value is read as that may be null. -/
inductive OrNull (IsRead : Json → α → Prop) : Json → Option α → Prop where
  | null : OrNull IsRead .null none
  | present {j : Json} {a : α} : j ≠ .null → IsRead j a → OrNull IsRead j (some a)

/-- What the items of an array are read as. -/
def IsListOf (IsRead : Json → α → Prop) (j : Json) (as : List α) : Prop :=
  ∃ items, j = .arr items ∧ List.Forall₂ IsRead items as

section

variable {β : Type} {IsRead : Json → α → Prop} {f : α → β}

/-- What is read first and made into something else afterwards, here and in the two lemmas below. -/
theorem orDefault_map_iff (f : α → β) (default : α) {j : Option Json} {b : β} :
    OrDefault (fun j b => ∃ a, IsRead j a ∧ f a = b) (f default) j b ↔
      ∃ a, OrDefault IsRead default j a ∧ f a = b := by
  cases j with
  | none => exact ⟨fun h => ⟨default, rfl, h.symm⟩, by rintro ⟨_, rfl, rfl⟩; rfl⟩
  | some j => exact Iff.rfl

theorem orNull_map_iff {j : Json} {b : Option β} :
    OrNull (fun j b => ∃ a, IsRead j a ∧ f a = b) j b ↔
      ∃ a, OrNull IsRead j a ∧ a.map f = b := by
  constructor
  · rintro (_ | ⟨hj, a, ha, rfl⟩)
    · exact ⟨none, .null, rfl⟩
    · exact ⟨some a, .present hj ha, rfl⟩
  · rintro ⟨_, _ | ⟨hj, ha⟩, rfl⟩
    · exact .null
    · exact .present hj ⟨_, ha, rfl⟩

theorem isListOf_map_iff {j : Json} {bs : List β} :
    IsListOf (fun j b => ∃ a, IsRead j a ∧ f a = b) j bs ↔
      ∃ as, IsListOf IsRead j as ∧ as.map f = bs := by
  constructor
  · rintro ⟨items, rfl, h⟩
    induction h with
    | nil => exact ⟨[], ⟨[], rfl, .nil⟩, rfl⟩
    | cons hab _ ih =>
      obtain ⟨a, ha, rfl⟩ := hab
      obtain ⟨as, ⟨items, hi, has⟩, rfl⟩ := ih
      cases hi
      exact ⟨a :: as, ⟨_, rfl, .cons ha has⟩, rfl⟩
  · rintro ⟨as, ⟨items, rfl, h⟩, rfl⟩
    refine ⟨items, rfl, ?_⟩
    rw [List.forall₂_map_right_iff]
    exact h.imp fun j a ha => ⟨a, ha, rfl⟩

end

theorem text_eq_ok_iff {j : Json} {s : String} : text j = .ok s ↔ j = .str s := by
  cases j <;> simp [text]

theorem nat_eq_ok_iff {width : Nat} {j : Json} {n : Nat} :
    nat width j = .ok n ↔ j = .int n ∧ n < Word.limit width := by
  have positive : 0 < Word.limit width := Nat.two_pow_pos width
  cases j with
  | int i =>
    rw [nat, intBetween, Json.int.injEq]
    split
    · simp only [Except.map, Except.ok.injEq]
      omega
    · simp only [Except.map, reduceCtorEq, false_iff]
      omega
  | _ => simp [nat, intBetween, Except.map]

theorem bool_eq_ok_iff {j : Json} {b : Bool} : bool j = .ok b ↔ j = .bool b := by
  cases j <;> simp [bool]

/-- A name is read where it stands alone or is the only key, for nothing. -/
theorem named_eq_ok_iff {names : List (String × α)} {expected : String} {j : Json}
    {a : α} : named names expected j = .ok a ↔
      ∃ name, names.lookup name = some a ∧ (j = .str name ∨ j = .obj [(name, .null)]) := by
  unfold named
  split
  · next name => cases hn : names.lookup name <;> simp [hn]
  · next name => cases hn : names.lookup name <;> simp [hn]
  · next text key =>
    constructor
    · rintro ⟨⟩
    · rintro ⟨name, -, rfl | rfl⟩
      · exact absurd rfl (text name)
      · exact absurd rfl (key name)

section

variable {item : Decoder α} {IsRead : Json → α → Prop} (h : ∀ j a, item j = .ok a ↔ IsRead j a)
include h

theorem nullable_eq_ok_iff {j : Json} {a : Option α} :
    Decode.nullable item j = .ok a ↔ OrNull IsRead j a := by
  by_cases hj : j = .null
  · subst hj
    constructor
    · rintro ⟨⟩
      exact .null
    · rintro (⟨⟩ | ⟨hn, -⟩)
      · rfl
      · exact absurd rfl hn
  · have hd : Decode.nullable item j = (item j).map some := by
      cases j <;> first | rfl | exact absurd rfl hj
    rw [hd]
    constructor
    · intro ha
      cases hi : item j with
      | error e =>
        rw [hi] at ha
        cases ha
      | ok b =>
        rw [hi] at ha
        cases ha
        exact .present hj ((h j b).1 hi)
    · rintro (⟨⟩ | ⟨-, hr⟩)
      · exact absurd rfl hj
      · rw [(h j _).2 hr]
        rfl

theorem list_eq_ok_iff {j : Json} {as : List α} :
    Decode.list item j = .ok as ↔ IsListOf IsRead j as := by
  have hr : (fun j a => item j = .ok a) = IsRead := by
    funext j a
    exact propext (h j a)
  cases j with
  | arr items =>
    rw [Decode.list, mapM_eq_ok_iff_forall₂, hr]
    exact ⟨fun hf => ⟨items, rfl, hf⟩, by rintro ⟨_, ⟨⟩, hf⟩; exact hf⟩
  | _ =>
    constructor
    · rintro ⟨⟩
    · rintro ⟨_, ⟨⟩, -⟩

theorem withDefault_eq_ok_iff {f : Fields} {i : Nat} {default a : α} :
    f.withDefault i item default = .ok a ↔ OrDefault IsRead default (f.value? i) a := by
  rw [withDefault_eq, Fields.value?]
  cases f.values[i]?.join with
  | none => exact ⟨by rintro ⟨⟩; rfl, by rintro rfl; rfl⟩
  | some j => exact h j a

theorem required_eq_ok_iff {f : Fields} {i : Nat} {name : String} {a : α} :
    f.required i name item = .ok a ↔ ∃ j, f.value? i = some j ∧ IsRead j a := by
  cases hv : f.value? i with
  | none =>
    constructor
    · intro hr
      cases hp : f.position <;>
        simp [Fields.required, Fields.optional, hv, Fields.present, hp, bind, Except.bind] at hr
    · rintro ⟨_, ⟨⟩, -⟩
  | some j =>
    rw [required_eq hv, h]
    exact ⟨fun hr => ⟨j, rfl, hr⟩, by rintro ⟨_, ⟨⟩, hr⟩; exact hr⟩

end

/-- A record is read from its fields, however they are given. -/
theorem record_eq_ok_iff (names : List String) {expected : String}
    {build : Fields → Except Fault α} {P : List (Option Json) → Prop} {a : α}
    (h : ∀ f values, values.length = names.length → (∀ i, f.value? i = values[i]?.join) →
      (build f = .ok a ↔ P values)) (j : Json) :
    record expected (names.map ([·])) build j = .ok a ↔
      ∃ values, IsRecord names j values ∧ P values := by
  cases j with
  | obj members =>
    have hm (values : List (Option Json)) :
        (names.map ([·])).mapM (memberOf members) = .ok values ↔
          List.Forall₂ (fun name value => given name members = value.toList) names values := by
      rw [mapM_eq_ok_iff_forall₂, List.forall₂_map_left_iff]
      simp only [memberOf_eq_ok_iff]
    rw [record, bind_eq_ok_iff]
    constructor
    · rintro ⟨values, hv, hb⟩
      exact ⟨values, .obj ((hm values).1 hv),
        (h _ values ((hm values).1 hv).length_eq.symm fun _ => rfl).1 hb⟩
    · rintro ⟨values, ⟨hv⟩, hp⟩
      exact ⟨values, (hm values).2 hv, (h _ values hv.length_eq.symm fun _ => rfl).2 hp⟩
  | arr items =>
    have padded (position : Option String) (i : Nat) : Fields.value? ⟨items.map some, position⟩ i =
        (items.map some ++ List.replicate (names.length - items.length) none)[i]?.join := by
      rw [Fields.value?, List.getElem?_append]
      split
      · rfl
      · next hi =>
        rw [List.getElem?_eq_none (Nat.le_of_not_lt hi), List.getElem?_replicate]
        split <;> rfl
    rw [record, bind_eq_ok_iff, List.length_map]
    by_cases hl : items.length ≤ names.length
    · have hb (position : Option String) := h ⟨items.map some, position⟩ _
        (IsRecord.arr hl).length_eq (padded position)
      simp only [gt_iff_lt, Nat.not_lt.2 hl, if_false]
      constructor
      · rintro ⟨_, hr, ⟨⟩⟩
        exact ⟨_, .arr hl, (hb _).1 hr⟩
      · rintro ⟨_, ⟨-⟩, hp⟩
        exact ⟨a, (hb _).2 hp, rfl⟩
    · simp only [gt_iff_lt, Nat.lt_of_not_le hl, if_true]
      constructor
      · rintro ⟨_, -, ⟨⟩⟩
      · rintro ⟨_, hr, -⟩
        cases hr with
        | arr hn => exact absurd hn hl
  | _ =>
    constructor
    · rintro ⟨⟩
    · rintro ⟨_, ⟨⟩, -⟩

end Json.Decode
end MultiCluster
