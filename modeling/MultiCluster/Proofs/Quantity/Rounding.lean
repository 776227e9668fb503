import Mathlib.Data.Rat.Floor
import Mathlib.Tactic.FieldSimp
import Mathlib.Tactic.Linarith
import Mathlib.Tactic.NormNum
import Mathlib.Tactic.Positivity
import MultiCluster.Quantity

/-! The conversion of quantities against the numbers that they stand for: it is the ceiling of the
exact number of units, brought into 64 bits, and no step of it leaves its machine word. -/
namespace MultiCluster.Quantity

/-- The number of units of ten to the `scale` that the quantity stands for. -/
def exact (q : Quantity) (scale : Int) : ℚ :=
  (if q.negative then -1 else 1) * q.mantissa * 2 ^ q.binary * 10 ^ (q.decimal - scale)

/-- The ceiling in 64 bits. The least word is left to what is at most minus two to the 128; what else
is too small becomes the number above it. -/
def rounded (v : ℚ) : Int :=
  if v ≤ -2 ^ 128 then minInt64 else max (-maxInt64) (min ⌈v⌉ maxInt64)

theorem rounded_mono {v w : ℚ} (h : v ≤ w) : rounded v ≤ rounded w := by
  unfold rounded
  have hc : ⌈v⌉ ≤ ⌈w⌉ := Int.ceil_mono h
  split_ifs with hv hw hw
  · exact le_refl _
  · exact le_max_of_le_left (by decide)
  · exact absurd (h.trans hw) hv
  · exact max_le_max_left _ (min_le_min_right _ hc)

/-- What a conversion into 64 bits is. -/
structure Rounds (v : ℚ) (r : Int) : Prop where
  fits : |⌈v⌉| ≤ maxInt64 → r = ⌈v⌉
  above : maxInt64 < ⌈v⌉ → r = maxInt64
  below : ⌈v⌉ ≤ minInt64 → r = -maxInt64 ∨ r = minInt64
  positive : 0 < v → 1 ≤ r
  zero : v = 0 → r = 0

theorem rounds_rounded (v : ℚ) : Rounds v (rounded v) := by
  have hmax : maxInt64 = 2 ^ 63 - 1 := rfl
  have hmin : minInt64 = -2 ^ 63 := rfl
  have least : v ≤ -2 ^ 128 → ⌈v⌉ ≤ -2 ^ 128 := fun h => Int.ceil_le.2 (by exact_mod_cast h)
  unfold rounded
  split_ifs with hv
  · have hc := least hv
    refine ⟨fun h => ?_, fun h => ?_, fun _ => .inr rfl, fun h => ?_, fun h => ?_⟩
    · have := abs_le.1 h
      omega
    · omega
    · linarith
    · linarith
  · refine ⟨fun h => ?_, fun h => ?_, fun h => ?_, fun h => ?_, fun h => ?_⟩
    · have := abs_le.1 h
      omega
    · omega
    · omega
    · have : 0 < ⌈v⌉ := Int.ceil_pos.2 h
      omega
    · rw [h, Int.ceil_zero]
      decide

/-- The powers of ten that fit are those up to the 38th. -/
theorem powerOfTen?_eq (e : Nat) : powerOfTen? e = Word.unsigned? 128 (10 ^ e) := by
  unfold powerOfTen? Word.unsigned?
  by_cases he : e ≤ 38
  · have hp : 10 ^ e ≤ 10 ^ 38 := Nat.pow_le_pow_right (by decide) he
    rw [if_pos he, if_pos (Nat.lt_of_le_of_lt hp (by decide))]
    rfl
  · have hp : 10 ^ 39 ≤ 10 ^ e := Nat.pow_le_pow_right (by decide) (by omega)
    have hl : Word.limit 128 ≤ 10 ^ 39 := by decide
    rw [if_neg he, if_neg (Nat.not_lt.2 (hl.trans hp))]

/-- A product has no result just when it does not fit. -/
theorem scaleUp?_eq (n e : Nat) : scaleUp? n e = Word.unsigned? 128 (n * 10 ^ e) := by
  unfold scaleUp?
  obtain rfl | hn := Nat.eq_zero_or_pos n
  · rw [if_pos rfl, Nat.zero_mul]
    rfl
  · rw [if_neg (Nat.ne_of_gt hn), powerOfTen?_eq]
    by_cases hp : 10 ^ e < Word.limit 128
    · simp only [Word.unsigned?, if_pos hp]
      rfl
    · have hm : ¬ n * 10 ^ e < Word.limit 128 :=
        Nat.not_lt.2 ((Nat.not_lt.1 hp).trans (Nat.le_mul_of_pos_left _ hn))
      simp only [Word.unsigned?, if_neg hp, if_neg hm]
      rfl

private theorem quotient_lt_one {n e : Nat} (hn : n < wordLimit) (hp : powerOfTen? e = none) :
    (n : ℚ) / 10 ^ e < 1 := by
  have hl : wordLimit ≤ 10 ^ e := by
    rw [powerOfTen?_eq, Word.unsigned?] at hp
    split at hp
    · cases hp
    · exact Nat.not_lt.1 ‹_›
  rw [div_lt_one (by positivity)]
  exact_mod_cast hn.trans_le hl

/-- The magnitude of a negative number is rounded down. -/
theorem scaleDown_negative {n : Nat} (hn : n < wordLimit) (e : Nat) :
    (scaleDown true n e : Int) = ⌊(n : ℚ) / 10 ^ e⌋ := by
  unfold scaleDown
  cases hp : powerOfTen? e with
  | some divisor =>
    rw [powerOfTen?_eq, Word.unsigned?] at hp
    split at hp
    · obtain rfl := Option.some.inj hp
      have hd := Rat.floor_natCast_div_natCast n (10 ^ e)
      push_cast at hd ⊢
      exact hd.symm
    · cases hp
  | none =>
    have h1 := quotient_lt_one hn hp
    have h0 : (0 : ℚ) ≤ n / 10 ^ e := by positivity
    simp only [Bool.or_true, if_true]
    exact (Int.floor_eq_zero_iff.2 ⟨h0, h1⟩).symm

private theorem ceil_quotient (n : Nat) {d : Nat} (hd : 0 < d) :
    (((n + d - 1) / d : Nat) : Int) = ⌈(n : ℚ) / d⌉ := by
  have hq := Nat.div_add_mod (n + d - 1) d
  have hm := Nat.mod_lt (n + d - 1) hd
  generalize (n + d - 1) / d = q at hq
  have lower : (q : ℚ) * d < n + d := by
    have h : q * d < n + d := by rw [Nat.mul_comm]; omega
    exact_mod_cast h
  have upper : (n : ℚ) ≤ q * d := by
    have h : n ≤ q * d := by rw [Nat.mul_comm]; omega
    exact_mod_cast h
  have hd : (0 : ℚ) < d := by exact_mod_cast hd
  refine (Int.ceil_eq_iff.2 ⟨?_, ?_⟩).symm
  · rw [lt_div_iff₀ hd]
    push_cast
    linarith
  · rw [div_le_iff₀ hd]
    exact_mod_cast upper

/-- The magnitude of a positive number is rounded up. -/
theorem scaleDown_positive {n : Nat} (hn : n < wordLimit) (e : Nat) :
    (scaleDown false n e : Int) = ⌈(n : ℚ) / 10 ^ e⌉ := by
  unfold scaleDown
  cases hp : powerOfTen? e with
  | some divisor =>
    rw [powerOfTen?_eq, Word.unsigned?] at hp
    split at hp
    · obtain rfl := Option.some.inj hp
      have hd := ceil_quotient n (d := 10 ^ e) (by positivity)
      push_cast at hd ⊢
      exact hd
    · cases hp
  | none =>
    have h1 := quotient_lt_one hn hp
    simp only [Bool.or_false, decide_eq_true_eq]
    split
    · simp [*]
    · have h0 : (0 : ℚ) < n / 10 ^ e := by positivity
      exact (Int.ceil_eq_iff.2 ⟨by simpa using h0, by simpa using h1.le⟩).symm

/-- A magnitude that is right gets the sign and the bounds that belong to the number. -/
theorem signedUnits_eq {negative : Bool} {m : Nat} {v : ℚ} (hv : -2 ^ 128 < v)
    (hm : ⌈v⌉ = if negative then -(m : Int) else m) : signedUnits negative m = rounded v := by
  have hmax : maxInt64 = 2 ^ 63 - 1 := rfl
  rw [signedUnits, rounded, if_neg (not_le.2 hv), hm]
  cases negative <;> simp only [Bool.false_eq_true, if_false, if_true] <;> omega

theorem rounded_of_large {v : ℚ} (h : 2 ^ 128 ≤ v) : rounded v = maxInt64 := by
  have hmax : maxInt64 = 2 ^ 63 - 1 := rfl
  have hc : 2 ^ 128 ≤ ⌈v⌉ := by
    have hv : ((2 ^ 128 : Int) : ℚ) ≤ ⌈v⌉ := by
      push_cast
      exact h.trans (Int.le_ceil v)
    exact_mod_cast hv
  rw [rounded, if_neg (by linarith)]
  omega

theorem rounded_of_small {v : ℚ} (h : v ≤ -2 ^ 128) : rounded v = minInt64 := if_pos h

/-- The number of units as a power of ten times a whole number with a sign. -/
theorem exact_eq (q : Quantity) (scale : Int) : q.exact scale =
    (if q.negative then -1 else 1) * ((q.mantissa * 2 ^ q.binary : Nat) * 10 ^ (q.decimal - scale)) := by
  rw [exact]
  push_cast
  ring

/-- Scaling up is exact, and what does not fit is beyond all bounds. -/
private theorem scaled_up (negative : Bool) (n k : Nat) :
    (match scaleUp? n k with
      | some magnitude => some (signedUnits negative magnitude)
      | none => some (saturated negative)) =
      some (rounded ((if negative then -1 else 1) * ((n : ℚ) * 10 ^ k))) := by
  have hc : (n : ℚ) * 10 ^ k = (n * 10 ^ k : Nat) := by push_cast; rfl
  rw [scaleUp?_eq, hc]
  generalize n * 10 ^ k = m
  unfold Word.unsigned?
  by_cases hm : m < Word.limit 128
  · rw [if_pos hm]
    have hq : (m : ℚ) < 2 ^ 128 := by exact_mod_cast hm
    have h0 : (0 : ℚ) ≤ m := by positivity
    refine congrArg some (signedUnits_eq ?_ ?_)
    · split_ifs <;> linarith
    · cases negative
      · simp
      · simp [Int.ceil_neg]
  · rw [if_neg hm]
    have hq : (2 ^ 128 : ℚ) ≤ m := by exact_mod_cast Nat.not_lt.1 hm
    cases negative
    · exact congrArg some (rounded_of_large (by simpa using hq)).symm
    · exact congrArg some (rounded_of_small (by simpa using hq)).symm

/-- Scaling down rounds toward positive infinity, and stays within all bounds. -/
private theorem scaled_down (negative : Bool) {n : Nat} (hn : n < wordLimit) (k : Nat) :
    signedUnits negative (scaleDown negative n k) =
      rounded ((if negative then -1 else 1) * ((n : ℚ) / 10 ^ k)) := by
  have h0 : (0 : ℚ) ≤ n / 10 ^ k := by positivity
  have hq : (n : ℚ) / 10 ^ k < 2 ^ 128 := by
    have h1 : (1 : ℚ) ≤ 10 ^ k := one_le_pow₀ (by norm_num)
    have h2 : (n : ℚ) < 2 ^ 128 := by exact_mod_cast hn
    exact (div_le_self (by positivity) h1).trans_lt h2
  apply signedUnits_eq
  · split_ifs <;> linarith
  · cases negative
    · simpa using (scaleDown_positive hn k).symm
    · simpa [Int.ceil_neg] using (scaleDown_negative hn k).symm

/-- Where the mantissa times the power of two fits its word, the conversion depends on the number alone
that the quantity stands for. -/
theorem units?_eq {q : Quantity} {scale : Int} (hn : q.mantissa * 2 ^ q.binary < 2 ^ 128)
    (he : isExponent (q.decimal - scale)) : q.units? scale = some (rounded (q.exact scale)) := by
  have hn' : ¬ q.mantissa * Nat.pow 2 q.binary ≥ wordLimit := Nat.not_le.2 hn
  rw [units?, exact_eq]
  simp only [if_neg hn', he, Bool.not_true, Bool.false_eq_true, if_false]
  by_cases h0 : q.decimal - scale ≥ 0
  · obtain ⟨k, hk⟩ := Int.eq_ofNat_of_zero_le h0
    rw [if_pos h0, hk, Int.toNat_natCast, zpow_natCast]
    exact scaled_up _ _ k
  · obtain ⟨k, hk⟩ := Int.eq_ofNat_of_zero_le (show 0 ≤ -(q.decimal - scale) by omega)
    have he : q.decimal - scale = -(k : Int) := by omega
    rw [if_neg h0, hk, Int.toNat_natCast, he, zpow_neg, zpow_natCast, ← div_eq_mul_inv]
    exact congrArg some (scaled_down _ hn k)

end MultiCluster.Quantity
