import MultiCluster.Proofs.Quantity.Spelling

/-! Which texts are read as whole numbers: exactly those of digits, behind a sign if one is taken,
whose number is in range. -/
namespace MultiCluster

theorem Word.unsigned?_eq_some_iff {width m n : Nat} :
    unsigned? width m = some n ↔ n = m ∧ n < limit width := by
  rw [unsigned?, Option.ite_none_right_eq_some, Option.some_inj]
  constructor
  · rintro ⟨h, rfl⟩
    exact ⟨rfl, h⟩
  · rintro ⟨rfl, h⟩
    exact ⟨h, rfl⟩

theorem Word.signed?_eq_some_iff {width : Nat} {i j : Int} :
    signed? width i = some j ↔ j = i ∧ least width ≤ j ∧ j ≤ greatest width := by
  rw [signed?, Option.ite_none_right_eq_some, Option.some_inj]
  constructor
  · rintro ⟨h, rfl⟩
    exact ⟨rfl, h⟩
  · rintro ⟨rfl, h⟩
    exact ⟨h, rfl⟩

namespace Text

open Quantity (Digits Sign)

/-- Characters that are digits are written by digits. -/
theorem exists_digits {cs : List Char} (h : cs.all Char.isDigit = true) :
    ∃ ds : Digits, cs = ds.chars := by
  induction cs with
  | nil => exact ⟨[], rfl⟩
  | cons c cs ih =>
    obtain ⟨hc, hcs⟩ := Bool.and_eq_true_iff.1 h
    obtain ⟨ds, rfl⟩ := ih hcs
    have range : 48 ≤ c.toNat ∧ c.toNat ≤ 57 := Char.isDigit_iff_toNat.1 hc
    have written : c = Nat.digitChar (c.toNat - 48) := by
      apply Char.toNat_inj.1
      rw [Nat.toNat_digitChar_of_lt_ten (by omega)]
      omega
    exact ⟨⟨c.toNat - 48, by omega⟩ :: ds, by simp [Digits.chars, ← written]⟩

theorem readDigits_eq_some_iff {cs : List Char} {n : Nat} :
    readDigits cs = some n ↔ ∃ ds : Digits, ds ≠ [] ∧ cs = ds.chars ∧ n = ds.value := by
  constructor
  · intro h
    rw [readDigits] at h
    split at h
    · cases h
    · next hc =>
      simp only [Bool.or_eq_true, Bool.not_eq_true', not_or, Bool.not_eq_false] at hc
      obtain ⟨ds, rfl⟩ := exists_digits hc.2
      have he : ds ≠ [] := by
        rintro rfl
        exact hc.1 rfl
      exact ⟨ds, he, rfl, by rw [← Option.some_inj.1 h, Quantity.digitsValue_chars]⟩
  · rintro ⟨ds, he, rfl, rfl⟩
    exact Quantity.readDigits_chars he

theorem readUnsigned_chars (width : Nat) {sign : Sign} (hs : sign ≠ .minus) {ds : Digits}
    (h : ds ≠ []) : readUnsigned width (sign.chars ++ ds.chars) = Word.unsigned? width ds.value := by
  have hr := Quantity.readDigits_chars h
  cases sign with
  | minus => exact absurd rfl hs
  | plus => simp [readUnsigned, Sign.chars, hr]
  | bare =>
    obtain ⟨d, ds, rfl⟩ := List.exists_cons_of_ne_nil h
    have plain : ∀ d : Fin 10, Nat.digitChar d ≠ '+' := by decide
    rw [Digits.chars, List.map_cons] at hr ⊢
    simp [readUnsigned, Sign.chars, hr, plain d]

/-- What may not be negative may have a plus in front, but no minus. -/
theorem readUnsigned_eq_some_iff {width : Nat} {cs : List Char} {n : Nat} :
    readUnsigned width cs = some n ↔ ∃ (sign : Sign) (ds : Digits), sign ≠ .minus ∧ ds ≠ [] ∧
      cs = sign.chars ++ ds.chars ∧ n = ds.value ∧ n < Word.limit width := by
  constructor
  · intro h
    unfold readUnsigned at h
    obtain ⟨m, hm, hn⟩ := Option.bind_eq_some_iff.1 h
    obtain ⟨rfl, hlt⟩ := Word.unsigned?_eq_some_iff.1 hn
    obtain ⟨ds, he, hds, hv⟩ := readDigits_eq_some_iff.1 hm
    split at hds
    · exact ⟨.plus, ds, by decide, he, congrArg ('+' :: ·) hds, hv, hlt⟩
    · exact ⟨.bare, ds, by decide, he, hds, hv, hlt⟩
  · rintro ⟨sign, ds, hs, he, rfl, rfl, hlt⟩
    rw [readUnsigned_chars width hs he]
    exact Word.unsigned?_eq_some_iff.2 ⟨rfl, hlt⟩

/-- A number with a sign is cut in front of its digits. -/
private theorem exists_sign_of_readSigned {width : Nat} {cs : List Char} {i : Int}
    (h : readSigned width cs = some i) : ∃ (sign : Sign) (rest : List Char) (n : Nat),
      cs = sign.chars ++ rest ∧ readDigits rest = some n ∧
        Word.signed? width (sign.factor * n) = some i := by
  have minus : Sign.minus.factor = -1 := rfl
  have plus : Sign.plus.factor = 1 := rfl
  have bare : Sign.bare.factor = 1 := rfl
  unfold readSigned at h
  dsimp only at h
  split at h <;> simp only [Option.pure_def, Option.bind_eq_bind, Option.map_bind, Option.map_id_fun',
    Function.comp_apply, id_eq, Option.bind_eq_some_iff, Option.map_some, Option.some.injEq,
    exists_exists_and_eq_and] at h <;> obtain ⟨n, hn, hi⟩ := h
  case h_1 rest => exact ⟨.minus, rest, n, rfl, hn, by rwa [minus, Int.neg_one_mul]⟩
  case h_2 rest => exact ⟨.plus, rest, n, rfl, hn, by rwa [plus, Int.one_mul]⟩
  case h_3 => exact ⟨.bare, cs, n, rfl, hn, by rwa [bare, Int.one_mul]⟩

theorem readSigned_eq_some_iff {width : Nat} {cs : List Char} {i : Int} :
    readSigned width cs = some i ↔ ∃ (sign : Sign) (ds : Digits), ds ≠ [] ∧
      cs = sign.chars ++ ds.chars ∧ i = sign.factor * ds.value ∧
      Word.least width ≤ i ∧ i ≤ Word.greatest width := by
  constructor
  · intro h
    obtain ⟨sign, rest, n, rfl, hn, hi⟩ := exists_sign_of_readSigned h
    obtain ⟨ds, he, rfl, rfl⟩ := readDigits_eq_some_iff.1 hn
    exact ⟨sign, ds, he, rfl, Word.signed?_eq_some_iff.1 hi⟩
  · rintro ⟨sign, ds, he, rfl, rfl, hr⟩
    rw [Quantity.readSigned_chars width sign he]
    exact Word.signed?_eq_some_iff.2 ⟨rfl, hr⟩

end Text
end MultiCluster
