import Mathlib.Algebra.Order.Field.Power
import MultiCluster.Proofs.Quantity.Spelling

/-! The order of written quantities against that of the units they are converted to. The conversion
keeps it for all numbers whose digits fit a word together with the power of two; beyond that it goes by
the spelling. -/
namespace MultiCluster.Quantity

namespace Spelling

/-- The exponents are 32-bit numbers, and so is what is left of them at the scale. -/
def IsInRangeAt (s : Spelling) (scale : Int) : Prop :=
  s.IsInRange ∧ isExponent (s.decimal - scale)

instance (s : Spelling) (scale : Int) : Decidable (s.IsInRangeAt scale) :=
  inferInstanceAs (Decidable (_ ∧ _))

/-- The digits times the power of two leave the word, whatever the number is. -/
def IsWide (s : Spelling) : Prop := 2 ^ 128 ≤ s.digits * 2 ^ s.suffix.binary

/-- What a written number is converted to. -/
structure Converts (s : Spelling) (scale : Int) (r : Option Int) : Prop where
  unread : 2 ^ 128 ≤ s.digits → r = none
  cut : s.digits < 2 ^ 128 → s.IsWide → r = some (saturated s.sign.isMinus)
  rounds : ¬ s.IsWide → ∃ i, r = some i ∧ Rounds (s.value / 10 ^ scale) i

/-- A number that is not converted to more than it should be. -/
def IsHeldDown (s : Spelling) : Prop := s.digits < 2 ^ 128 ∧ (s.IsWide → s.sign.isMinus = true)

/-- A number that is not converted to less than it should be. -/
def IsHeldUp (s : Spelling) : Prop := s.digits < 2 ^ 128 ∧ (s.IsWide → s.sign.isMinus = false)

/-- How the conversions of two written numbers compare. -/
structure Compares (a b : Spelling) (scale : Int) : Prop where
  left : a.Converts scale (unitsOf? a.text scale)
  right : b.Converts scale (unitsOf? b.text scale)
  ordered : a.IsHeldDown → b.IsHeldUp → a.value ≤ b.value →
    ∃ i j, unitsOf? a.text scale = some i ∧ unitsOf? b.text scale = some j ∧ i ≤ j
  same : ¬ a.IsWide → ¬ b.IsWide → a.value = b.value →
    unitsOf? a.text scale = unitsOf? b.text scale

end Spelling

theorem minInt64_le_rounded (v : ℚ) : minInt64 ≤ rounded v := by
  have h : minInt64 ≤ -maxInt64 := by decide
  rw [rounded]
  split
  · exact le_refl _
  · exact le_max_of_le_left h

theorem rounded_le_maxInt64 (v : ℚ) : rounded v ≤ maxInt64 := by
  have h : minInt64 ≤ maxInt64 := by decide
  rw [rounded]
  split
  · exact h
  · exact max_le (by decide) (min_le_right _ _)

namespace Spelling

variable {s : Spelling} {scale : Int}

theorem digits_lt (h : ¬ s.IsWide) : s.digits < 2 ^ 128 :=
  (Nat.le_mul_of_pos_right _ (Nat.two_pow_pos _)).trans_lt (Nat.not_le.1 h)

theorem unitsOf?_text (h : s.IsInRange) : unitsOf? s.text scale =
    if s.digits < 2 ^ 128 then s.quantity.units? scale else none := by
  rw [unitsOf?, parse?, text, String.toList_ofList, ofChars?_chars h]
  by_cases hd : s.digits < 2 ^ 128
  · rw [if_pos hd, if_pos (show s.digits < wordLimit from hd)]
    rfl
  · rw [if_neg hd, if_neg (show ¬ s.digits < wordLimit from hd)]
    rfl

/-- The word is left before the scale is looked at. -/
theorem unitsOf?_wide (h : s.IsInRange) (hd : s.digits < 2 ^ 128) (hw : s.IsWide) :
    unitsOf? s.text scale = some (saturated s.sign.isMinus) := by
  rw [unitsOf?_text h, if_pos hd]
  exact if_pos hw

theorem unitsOf?_fitting (h : s.IsInRangeAt scale) (hw : ¬ s.IsWide) :
    unitsOf? s.text scale = some (rounded (s.value / 10 ^ scale)) := by
  rw [unitsOf?_text h.1, if_pos (digits_lt hw), ← exact_quantity]
  exact units?_eq (Nat.not_le.1 hw) h.2

theorem converts (h : s.IsInRangeAt scale) : s.Converts scale (unitsOf? s.text scale) where
  unread hd := by rw [unitsOf?_text h.1, if_neg (Nat.not_lt.2 hd)]
  cut := unitsOf?_wide h.1
  rounds hw := ⟨_, unitsOf?_fitting h hw, rounds_rounded _⟩

theorem exists_le_rounded (h : s.IsInRangeAt scale) (hs : s.IsHeldDown) :
    ∃ i, unitsOf? s.text scale = some i ∧ i ≤ rounded (s.value / 10 ^ scale) := by
  by_cases hw : s.IsWide
  · refine ⟨_, unitsOf?_wide h.1 hs.1 hw, ?_⟩
    rw [hs.2 hw]
    exact minInt64_le_rounded _
  · exact ⟨_, unitsOf?_fitting h hw, le_refl _⟩

theorem exists_rounded_le (h : s.IsInRangeAt scale) (hs : s.IsHeldUp) :
    ∃ i, unitsOf? s.text scale = some i ∧ rounded (s.value / 10 ^ scale) ≤ i := by
  by_cases hw : s.IsWide
  · refine ⟨_, unitsOf?_wide h.1 hs.1 hw, ?_⟩
    rw [hs.2 hw]
    exact rounded_le_maxInt64 _
  · exact ⟨_, unitsOf?_fitting h hw, le_refl _⟩

/-- Of two numbers the greater one is converted to more units, unless one of them is cut on the
wrong side because of its spelling. -/
theorem unitsOf?_compares {a b : Spelling} (ha : a.IsInRangeAt scale) (hb : b.IsInRangeAt scale) :
    Compares a b scale where
  left := converts ha
  right := converts hb
  ordered hda hub hle := by
    obtain ⟨i, hi, hia⟩ := exists_le_rounded ha hda
    obtain ⟨j, hj, hbj⟩ := exists_rounded_le hb hub
    have hscaled : a.value / 10 ^ scale ≤ b.value / 10 ^ scale :=
      div_le_div_of_nonneg_right hle (zpow_nonneg (by norm_num) scale)
    exact ⟨i, j, hi, hj, hia.trans ((rounded_mono hscaled).trans hbj)⟩
  same hwa hwb he := by rw [unitsOf?_fitting ha hwa, unitsOf?_fitting hb hwb, he]

/-- One, with a point and so many zeros behind it. -/
def one (zeros : Nat) (x : Suffix) : Spelling where
  sign := .bare
  whole := [1]
  fraction := some (List.replicate zeros 0)
  suffix := x
  someDigit := List.cons_ne_nil _ _

/-- Zeros behind the point do not change the number. -/
theorem one_value (zeros : Nat) (x : Suffix) : (one zeros x).value = 2 ^ x.binary * 10 ^ x.power := by
  have hz : Digits.behindPoint (List.replicate zeros 0) = 0 := by
    induction zeros with
    | zero => simp [Digits.behindPoint, Nat.ofDigits]
    | succ zeros ih =>
      rw [List.replicate_succ, Digits.behindPoint_cons, ih]
      norm_num
  have hw : Digits.value [1] = 1 := rfl
  have hs : Sign.factor .bare = 1 := rfl
  simp [value, one, behind, hz, hw, hs]

theorem unitsOf?_compares_of_same :
    (one 1 .kibi).text = "1.0Ki" ∧ (one 1 .kibi).IsInRangeAt 0 ∧ (one 30 .kibi).IsInRangeAt 0 ∧
      Compares (one 1 .kibi) (one 30 .kibi) 0 :=
  ⟨rfl, by decide, by decide, unitsOf?_compares (by decide) (by decide)⟩

/-- With more zeros the same number is converted to far more units, or to none. -/
theorem not_ordered_where_padded :
    (one 22 .exbi).text = "1.0000000000000000000000Ei" ∧ (one 1 .exbi).text = "1.0Ei" ∧
    (one 22 .exbi).IsInRangeAt mega ∧ (one 1 .exbi).IsInRangeAt mega ∧
    (one 22 .exbi).value = (one 1 .exbi).value ∧
    unitsOf? (one 22 .exbi).text mega = some 9223372036854775807 ∧
    unitsOf? (one 1 .exbi).text mega = some 1152921504607 ∧
    (one 39 .plain).IsInRangeAt milli ∧ unitsOf? (one 39 .plain).text milli = none := by
  have same : (one 22 .exbi).value = (one 1 .exbi).value := by rw [one_value, one_value]
  exact ⟨rfl, rfl, by decide, by decide, same, by decide, by decide, by decide, by decide⟩

end Spelling

end MultiCluster.Quantity
