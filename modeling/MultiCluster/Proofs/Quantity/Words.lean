import MultiCluster.Proofs.Quantity.Reading
import MultiCluster.Proofs.Quantity.Rounding

/-! The conversion of quantities step by step on machine words, where no step goes wrong, and what it
gives for every text that can be read. -/
namespace MultiCluster.Quantity

/-- Division of words, which has no result for zero. -/
def quotient? (n d : Nat) : Option Nat := if d = 0 then none else some (n / d)

/-- Division of words, with one more where there is a remainder. -/
def quotientUp? (n d : Nat) : Option Nat := do
  let q ← quotient? n d
  if n % d > 0 then Word.unsigned? 128 (q + 1) else some q

/-- The magnitude cut at the greatest signed word, and negated for a number with a sign. -/
def signedWord? (negative : Bool) (magnitude : Nat) : Option Int :=
  let value := (Word.signed? 64 magnitude).getD maxInt64
  if negative then Word.signed? 64 (-value) else some value

/-- Multiplication by a power of ten, both of them checked. -/
def wordUp? (n e : Nat) : Option Nat :=
  (Word.unsigned? 128 (10 ^ e)).bind fun factor => Word.unsigned? 128 (n * factor)

/-- Division by a power of ten, which is checked. -/
def wordDown? (negative : Bool) (n e : Nat) : Option Nat :=
  match Word.unsigned? 128 (10 ^ e) with
  | some divisor => if negative then quotient? n divisor else quotientUp? n divisor
  | none => some (if n = 0 || negative then 0 else 1)

/-- The conversion on words: 128 bits for magnitudes, 32 for exponents, 64 for the result. Products,
powers and the difference of the exponents are checked, and their failure is provided for. There is no
answer at all if another step leaves its word or divides by zero. -/
def onWords? (q : Quantity) (scale : Int) : Option (Option Int) := do
  let factor ← Word.unsigned? 128 (1 <<< q.binary)
  match Word.unsigned? 128 (q.mantissa * factor) with
  | none => some (some (saturated q.negative))
  | some numerator =>
    match Word.signed? 32 (q.decimal - scale) with
    | none => some none
    | some exponent =>
      let e ← Word.unsigned? 32 exponent.natAbs
      if exponent ≥ 0 then
        match wordUp? numerator e with
        | some magnitude => (signedWord? q.negative magnitude).map some
        | none =>
          if numerator = 0 then (signedWord? q.negative 0).map some
          else some (some (saturated q.negative))
      else
        let magnitude ← wordDown? q.negative numerator e
        (signedWord? q.negative magnitude).map some

/-- Negation never leaves the word, because the magnitude was cut. -/
theorem signedWord?_eq (negative : Bool) (m : Nat) :
    signedWord? negative m = some (signedUnits negative m) := by
  have hmax : maxInt64 = Word.greatest 64 := rfl
  have hl : Word.least 64 = -Word.greatest 64 - 1 := by decide
  have hg : 0 ≤ Word.greatest 64 := by decide
  have hv : (Word.signed? 64 m).getD maxInt64 = min (m : Int) maxInt64 := by
    unfold Word.signed?
    split_ifs with h
    · simp only [Option.getD_some]
      omega
    · simp only [Option.getD_none]
      omega
  rw [signedWord?, signedUnits, hv]
  cases negative
  · rfl
  · have lower : Word.least 64 ≤ -min (m : Int) maxInt64 := by omega
    have upper : -min (m : Int) maxInt64 ≤ Word.greatest 64 := by omega
    exact if_pos (And.intro lower upper)

theorem quotientUp?_eq {n d : Nat} (hn : n < wordLimit) (hd : 0 < d) :
    quotientUp? n d = some ((n + d - 1) / d) := by
  have hq : quotient? n d = some (n / d) := if_neg (Nat.ne_of_gt hd)
  have hs := Nat.div_add_mod n d
  have hm := Nat.mod_lt n hd
  rw [quotientUp?, hq]
  simp only [Option.bind_eq_bind, Option.bind_some]
  by_cases hr : n % d > 0
  · have hc : (n + d - 1) / d = n / d + 1 :=
      Nat.div_eq_of_lt_le (by rw [Nat.succ_mul, Nat.mul_comm]; omega)
        (by rw [Nat.succ_mul, Nat.succ_mul, Nat.mul_comm]; omega)
    -- The divisor is two at least, so that one more than the quotient is no more than the number.
    have hl : n / d + 1 ≤ n := by
      have h2 := Nat.mul_le_mul_right (n / d) (show 2 ≤ d by omega)
      omega
    rw [if_pos hr, hc]
    exact if_pos (hl.trans_lt hn)
  · have hc : (n + d - 1) / d = n / d :=
      Nat.div_eq_of_lt_le (by rw [Nat.mul_comm]; omega) (by rw [Nat.succ_mul, Nat.mul_comm]; omega)
    rw [if_neg hr, hc]

theorem wordUp?_eq {n : Nat} (hn : n ≠ 0) (e : Nat) : wordUp? n e = scaleUp? n e := by
  rw [scaleUp?, if_neg hn, powerOfTen?_eq]
  rfl

/-- A power of ten is no zero to divide by. -/
theorem wordDown?_eq (negative : Bool) {n : Nat} (hn : n < wordLimit) (e : Nat) :
    wordDown? negative n e = some (scaleDown negative n e) := by
  rw [wordDown?, scaleDown, powerOfTen?_eq]
  unfold Word.unsigned?
  have hp : 0 < 10 ^ e := by positivity
  by_cases hl : 10 ^ e < Word.limit 128
  · simp only [if_pos hl]
    cases negative
    · exact quotientUp?_eq hn hp
    · exact if_neg (Nat.ne_of_gt hp)
  · simp only [if_neg hl]

theorem signed?_eq (e : Int) : Word.signed? 32 e = if isExponent e then some e else none := by
  simp only [Word.signed?, isExponent, Bool.and_eq_true, decide_eq_true_eq]

/-- A zero whose power of ten leaves its word is zero all the same. -/
private theorem upOnWords_eq (negative : Bool) (n e : Nat) :
    (match wordUp? n e with
      | some magnitude => (signedWord? negative magnitude).map some
      | none =>
        if n = 0 then (signedWord? negative 0).map some else some (some (saturated negative))) =
    some (match scaleUp? n e with
      | some magnitude => some (signedUnits negative magnitude)
      | none => some (saturated negative)) := by
  obtain rfl | hz := eq_or_ne n 0
  · have hs : scaleUp? 0 e = some 0 := if_pos rfl
    have hm : ∀ m, wordUp? 0 e = some m → m = 0 := by
      intro m hm
      obtain ⟨factor, -, hm⟩ := Option.bind_eq_some_iff.1 hm
      rw [Nat.zero_mul] at hm
      exact (Option.some.inj hm).symm
    cases hw : wordUp? 0 e with
    | some m => simp only [hm m hw, hs, signedWord?_eq, Option.map_some]
    | none => simp only [if_true, hs, signedWord?_eq, Option.map_some]
  · rw [wordUp?_eq hz]
    cases scaleUp? n e with
    | some magnitude => simp only [signedWord?_eq, Option.map_some]
    | none => simp only [if_neg hz]

/-- The conversion on words is the conversion, and always has an answer. -/
theorem onWords?_eq {q : Quantity} (hb : q.binary < 128) (scale : Int) :
    q.onWords? scale = some (q.units? scale) := by
  have hf : Word.unsigned? 128 (1 <<< q.binary) = some (2 ^ q.binary) := by
    rw [Nat.one_shiftLeft]
    exact if_pos (Nat.pow_lt_pow_right (by decide) hb)
  have hu : q.units? scale = if q.mantissa * 2 ^ q.binary ≥ wordLimit then _ else _ := rfl
  rw [onWords?, hf, hu]
  simp only [Option.bind_eq_bind, Option.bind_some]
  by_cases hn : q.mantissa * 2 ^ q.binary < wordLimit
  case neg =>
    have hw : Word.unsigned? 128 (q.mantissa * 2 ^ q.binary) = none := if_neg hn
    rw [hw, if_pos (Nat.not_lt.1 hn)]
  have hw : Word.unsigned? 128 (q.mantissa * 2 ^ q.binary) = some (q.mantissa * 2 ^ q.binary) :=
    if_pos hn
  rw [hw, if_neg (Nat.not_le.2 hn)]
  simp only [signed?_eq]
  cases he : isExponent (q.decimal - scale)
  case false => rfl
  simp only [if_true, Bool.not_true, Bool.false_eq_true, if_false]
  generalize q.mantissa * 2 ^ q.binary = n at hn
  generalize q.decimal - scale = e at he
  have ha : Word.unsigned? 32 e.natAbs = some e.natAbs := by
    simp only [isExponent, Bool.and_eq_true, decide_eq_true_eq] at he
    have hl : Word.least 32 = -2 ^ 31 := rfl
    have hg : Word.greatest 32 = 2 ^ 31 - 1 := rfl
    exact if_pos (show e.natAbs < 2 ^ 32 by omega)
  rw [ha]
  simp only [Option.bind_some]
  by_cases h0 : e ≥ 0
  · have hk : e.natAbs = e.toNat := by omega
    simp only [if_pos h0, hk]
    exact upOnWords_eq q.negative n e.toNat
  · have hk : e.natAbs = (-e).toNat := by omega
    simp only [if_neg h0, hk, wordDown?_eq _ hn, Option.bind_some, signedWord?_eq,
      Option.map_some]

/-- Whatever can be read and fits its word is converted to the ceiling of what it stands for, brought
into 64 bits, and on words no step goes wrong. -/
theorem unitsOf?_rounds {s : String} {q : Quantity} {scale : Int} (hq : parse? s = some q)
    (hn : q.mantissa * 2 ^ q.binary < 2 ^ 128) (he : isExponent (q.decimal - scale)) :
    ∃ r, unitsOf? s scale = some r ∧ Rounds (q.exact scale) r ∧
      q.onWords? scale = some (some r) := by
  have hu : q.units? scale = some (rounded (q.exact scale)) := units?_eq hn he
  obtain ⟨_, _, _, _, reads⟩ := ofChars?_eq_some_iff.1 hq
  have hb : q.binary < 128 := (suffix?_binary reads.factor).trans_lt (by decide)
  refine ⟨rounded (q.exact scale), ?_, rounds_rounded _, ?_⟩
  · rw [unitsOf?, hq]
    exact hu
  · rw [onWords?_eq hb, hu]

theorem unitsOf?_rounds_of_tiny : parse? "1e-2147483648" = some ⟨false, 1, -2147483648, 0⟩ ∧
    1 * 2 ^ 0 < 2 ^ 128 ∧ isExponent (-2147483648 - milli) ∧
    ∃ r, unitsOf? "1e-2147483648" milli = some r ∧
      Rounds (exact ⟨false, 1, -2147483648, 0⟩ milli) r ∧
      onWords? ⟨false, 1, -2147483648, 0⟩ milli = some (some r) :=
  ⟨by decide, by decide, by decide, unitsOf?_rounds (by decide) (by decide) (by decide)⟩

end MultiCluster.Quantity
