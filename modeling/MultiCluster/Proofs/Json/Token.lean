import MultiCluster.Json.Parser
import MultiCluster.Json.Printer

/-! Texts and whole numbers that are written as JSON are read back as they were. -/
namespace MultiCluster.Json

open Text

theorem hexDigit?_hexChar {d : Nat} (h : d < 16) : hexDigit? (hexChar d) = some d := by
  revert d
  decide

theorem toList_hexFixed_four (n : Nat) : (hexFixed 4 n).toList =
    [hexChar (n / 4096 % 16), hexChar (n / 256 % 16), hexChar (n / 16 % 16), hexChar (n % 16)] := by
  simp [hexFixed, List.range, List.range.loop]

private theorem readHex4_hexFixed {n : Nat} (h : n < 0x10000) (rest : List Char) :
    readHex4 ((hexFixed 4 n).toList ++ rest) = some (n, rest) := by
  have hn : ((n / 4096 % 16 * 16 + n / 256 % 16) * 16 + n / 16 % 16) * 16 + n % 16 = n := by omega
  rw [toList_hexFixed_four]
  simp [readHex4, hexDigit?_hexChar, Nat.mod_lt, hn]

-- One written character is read in one step.
private theorem readStringTail_escapeChar (fuel : Nat) (seen : List Char) (c : Char)
    (rest : List Char) : readStringTail (fuel + 1) seen (escapeChar c ++ rest) =
      readStringTail fuel (c :: seen) rest := by
  unfold escapeChar
  split
  case h_8 =>
    rename_i hq hs _ _ _ _ _
    split
    · rename_i hc
      have hu : c.toNat < 0x10000 := by omega
      have hl : c.toNat < 0xD800 := by omega
      simp [readStringTail, readEscape, readHex4_hexFixed hu, hl]
    · rename_i hc
      rw [List.singleton_append, readStringTail, if_neg hc]
      · exact hq
      · exact hs
  all_goals rfl

private theorem readStringTail_escaped (cs seen : List Char) (fuel : Nat) (rest : List Char)
    (h : cs.length < fuel) : readStringTail fuel seen (cs.flatMap escapeChar ++ '"' :: rest) =
      some (String.ofList (seen.reverse ++ cs), rest) := by
  induction cs generalizing seen fuel with
  | nil =>
    obtain ⟨fuel, rfl⟩ : ∃ k, fuel = k + 1 := ⟨fuel - 1, by simp at h; omega⟩
    simp [readStringTail]
  | cons c cs ih =>
    obtain ⟨fuel, rfl⟩ : ∃ k, fuel = k + 1 := ⟨fuel - 1, by simp at h; omega⟩
    rw [List.flatMap_cons, List.append_assoc, readStringTail_escapeChar,
      ih _ _ (by simpa using h), List.reverse_cons, List.append_assoc, List.singleton_append]

private theorem length_le_flatMap_escapeChar (cs : List Char) :
    cs.length ≤ (cs.flatMap escapeChar).length := by
  have one (c : Char) : 1 ≤ (escapeChar c).length := by
    unfold escapeChar
    split <;> try simp
    split <;> simp
  induction cs with
  | nil => simp
  | cons c cs ih =>
    have := one c
    simp only [List.flatMap_cons, List.length_append, List.length_cons]
    omega

/-- A quoted text is read back. -/
theorem readString_quote (s : String) (rest : List Char) :
    readString ((quote s).toList ++ rest) = some (s, rest) := by
  have hq : (quote s).toList ++ rest = '"' :: (s.toList.flatMap escapeChar ++ '"' :: rest) := by
    simp [quote]
  have hl := length_le_flatMap_escapeChar s.toList
  rw [hq, readString, readStringTail_escaped]
  · simp
  · simp only [List.length_append, List.length_cons]
    omega

/-- What may come behind a value: nothing, a comma or a closing bracket. -/
inductive Closes : List Char → Prop
  | nothing : Closes []
  | comma (rest : List Char) : Closes (',' :: rest)
  | bracket (rest : List Char) : Closes (']' :: rest)
  | brace (rest : List Char) : Closes ('\x7d' :: rest)

private theorem not_isDigit_of_closes {c : Char} {rest : List Char} (h : Closes (c :: rest)) :
    c.isDigit = false := by
  cases h <;> rfl

theorem ne_of_isDigit {c d : Char} (hc : c.isDigit = true) (hd : d.isDigit = false) :
    c ≠ d := by
  rintro rfl
  exact absurd hc (by simp [hd])

private theorem takeWhile_digits {ds rest : List Char} (hd : ∀ c ∈ ds, c.isDigit = true)
    (hr : Closes rest) : (ds ++ rest).takeWhile Char.isDigit = ds := by
  rw [List.takeWhile_append_of_pos hd]
  cases rest with
  | nil => simp
  | cons c rest => simp [not_isDigit_of_closes hr]

private theorem dropWhile_digits {ds rest : List Char} (hd : ∀ c ∈ ds, c.isDigit = true)
    (hr : Closes rest) : (ds ++ rest).dropWhile Char.isDigit = rest := by
  rw [List.dropWhile_append_of_pos hd]
  cases rest with
  | nil => rfl
  | cons c rest => simp [not_isDigit_of_closes hr]

private theorem isDigit_toDigits {n : Nat} {c : Char} (h : c ∈ Nat.toDigits 10 n) :
    c.isDigit = true :=
  Nat.isDigit_of_mem_toDigits (by decide) (by decide) h

private theorem toDigits_eq_cons (n : Nat) :
    ∃ c ds, Nat.toDigits 10 n = c :: ds ∧ c.isDigit = true := by
  obtain ⟨c, ds, h⟩ := List.exists_cons_of_ne_nil (Nat.toDigits_ne_nil (n := n) (b := 10))
  exact ⟨c, ds, h, isDigit_toDigits (n := n) (by simp [h])⟩

-- Written numbers have no leading zeros.
private theorem toDigits_head (n : Nat) : Nat.toDigits 10 n = ['0'] ∨
    ∃ c ds, Nat.toDigits 10 n = c :: ds ∧ c ≠ '0' := by
  induction n using Nat.strongRecOn with
  | ind n ih =>
    by_cases hn : n < 10
    · have hz : ∀ k < 10, k = 0 ∨ k.digitChar ≠ '0' := by decide
      rw [Nat.toDigits_of_lt_base hn]
      rcases hz n hn with rfl | h
      · exact .inl rfl
      · exact .inr ⟨_, [], rfl, h⟩
    · rw [Nat.toDigits_of_base_le (by decide) (by omega)]
      rcases ih (n / 10) (by omega) with h | ⟨c, ds, h, hc⟩
      · have hz := Nat.ofDigitChars_ten_toDigits (n := n / 10)
        rw [h] at hz
        have : 0 = n / 10 := hz
        omega
      · exact .inr ⟨c, ds ++ [(n % 10).digitChar], by rw [h, List.cons_append], hc⟩

private theorem readWhole_toDigits (n : Nat) {rest : List Char} (hr : Closes rest) :
    readWhole (Nat.toDigits 10 n ++ rest) = some (Nat.toDigits 10 n, rest) := by
  rw [readWhole, takeWhile_digits (fun _ => isDigit_toDigits) hr,
    dropWhile_digits (fun _ => isDigit_toDigits) hr]
  rcases toDigits_head n with h | ⟨c, ds, h, hc⟩
  · rw [h]
    rfl
  · rw [h]
    split
    · rename_i he
      cases he
    · rename_i he
      exact absurd (List.cons.inj he).1 hc
    · rfl

theorem digitsValue_toDigits (n : Nat) : digitsValue (Nat.toDigits 10 n) = n := by
  have h := Nat.ofDigitChars_ten_toDigits (n := n)
  simpa only [Nat.ofDigitChars, digitsValue, Nat.mul_comm] using h

private theorem readNumber_natural {n : Nat} {rest : List Char} (hr : Closes rest)
    (hn : n < Word.limit 64) :
    readNumber (Nat.toDigits 10 n ++ rest) = some (.int n, rest) := by
  have hw : wholeNumber false (Nat.toDigits 10 n) = .int n := by
    simp [wholeNumber, digitsValue_toDigits, hn]
  have hd := readWhole_toDigits n hr
  obtain ⟨c, ds, h, hdigit⟩ := toDigits_eq_cons n
  have hc : c ≠ '-' := ne_of_isDigit hdigit rfl
  rw [h] at hd hw ⊢
  rw [List.cons_append] at hd ⊢
  cases hr with
  | nothing =>
    rw [List.append_nil] at hd ⊢
    simp [readNumber, hc, hd, hw, readPower]
  | _ => simp [readNumber, hc, hd, hw, readPower]

private theorem readNumber_negative {n : Nat} {rest : List Char} (hr : Closes rest) (h0 : n ≠ 0)
    (hn : n ≤ Word.limit 63) :
    readNumber ('-' :: (Nat.toDigits 10 n ++ rest)) = some (.int (-n), rest) := by
  have hw : wholeNumber true (Nat.toDigits 10 n) = .int (-n) := by
    simp [wholeNumber, digitsValue_toDigits, h0, Nat.not_lt.2 hn]
  have hd := readWhole_toDigits n hr
  cases hr with
  | nothing =>
    rw [List.append_nil] at hd ⊢
    simp [readNumber, hd, hw, readPower]
  | _ => simp [readNumber, hd, hw, readPower]

/-- A whole number within 64 bits is read back. -/
theorem readNumber_int {i : Int} {rest : List Char} (hr : Closes rest)
    (hi : Word.least 64 ≤ i ∧ i < Word.limit 64) :
    readNumber ((toString i).toList ++ rest) = some (.int i, rest) := by
  rw [Int.toString_eq_repr, Int.repr_eq_if]
  split
  · rename_i h
    obtain ⟨n, rfl⟩ := Int.eq_ofNat_of_zero_le h
    rw [Int.toNat_natCast, Nat.toList_repr]
    exact readNumber_natural hr (by omega)
  · rename_i h
    obtain ⟨n, rfl⟩ : ∃ n : Nat, i = -n := ⟨(-i).toNat, by omega⟩
    rw [Int.neg_neg, Int.toNat_natCast, String.toList_append, Nat.toList_repr]
    have hn : n ≤ Word.limit 63 := by
      have : Word.least 64 = -(Word.limit 63 : Int) := rfl
      omega
    exact readNumber_negative hr (by omega) hn

/-- A written number starts with a sign or a digit, by which it is told from other values. -/
theorem toString_int_head (i : Int) :
    ∃ c cs, (toString i).toList = c :: cs ∧ (c = '-' ∨ c.isDigit = true) := by
  rw [Int.toString_eq_repr, Int.repr_eq_if]
  split
  · obtain ⟨c, ds, h, hc⟩ := toDigits_eq_cons i.toNat
    exact ⟨c, ds, by rw [Nat.toList_repr, h], .inr hc⟩
  · exact ⟨'-', Nat.toDigits 10 (-i).toNat, by simp, .inl rfl⟩

end MultiCluster.Json
