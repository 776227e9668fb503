import MultiCluster.Proofs.Text.Numeral

/-! Which texts are read as quantities: exactly those in which one is written, with nothing around it
but white space. -/
namespace MultiCluster.Quantity

open Text

theorem exists_sign (cs : List Char) :
    ∃ sign : Sign, cs = sign.chars ++ (splitSign cs).2 ∧ sign.isMinus = (splitSign cs).1 := by
  unfold splitSign
  split
  case h_1 rest => exact ⟨.minus, rfl, rfl⟩
  case h_2 rest => exact ⟨.plus, rfl, rfl⟩
  case h_3 => exact ⟨.bare, rfl, rfl⟩

/-- Behind an e there is an exponent, which is a word. -/
private theorem exists_scientific (capital : Bool) {cs : List Char} {power : Int} {binary : Nat}
    (h : (readSigned 32 cs).map (·, 0) = some (power, binary)) :
    ∃ x : Suffix, (if capital then 'E' else 'e') :: cs = x.chars ∧ x.power = power ∧
      x.binary = binary ∧ isExponent x.power := by
  obtain ⟨i, hi, hp⟩ := Option.map_eq_some_iff.1 h
  obtain ⟨rfl, rfl⟩ := Prod.mk.inj hp
  obtain ⟨sign, ds, he, rfl, rfl, least, greatest⟩ := readSigned_eq_some_iff.1 hi
  obtain ⟨d, ds, rfl⟩ := List.exists_cons_of_ne_nil he
  refine ⟨.scientific capital sign d ds, rfl, rfl, rfl, ?_⟩
  rw [isExponent, Bool.and_eq_true, decide_eq_true_iff, decide_eq_true_iff]
  exact ⟨least, greatest⟩

/-- What has a meaning behind a number is one of the suffixes. -/
theorem exists_suffix {cs : List Char} {power : Int} {binary : Nat}
    (h : suffix? cs = some (power, binary)) : ∃ x : Suffix, cs = x.chars ∧ x.power = power ∧
      x.binary = binary ∧ isExponent x.power := by
  have letters (x : Suffix) (hx : some (x.power, x.binary) = some (power, binary))
      (he : isExponent x.power) : x.power = power ∧ x.binary = binary ∧ isExponent x.power := by
    obtain ⟨hp, hb⟩ := Prod.mk.inj (Option.some.inj hx)
    exact ⟨hp, hb, he⟩
  unfold suffix? at h
  split at h
  case h_1 => exact ⟨.plain, rfl, letters .plain h (by decide)⟩
  case h_2 => exact ⟨.nano, rfl, letters .nano h (by decide)⟩
  case h_3 => exact ⟨.micro, rfl, letters .micro h (by decide)⟩
  case h_4 => exact ⟨.milli, rfl, letters .milli h (by decide)⟩
  case h_5 => exact ⟨.kilo, rfl, letters .kilo h (by decide)⟩
  case h_6 => exact ⟨.mega, rfl, letters .mega h (by decide)⟩
  case h_7 => exact ⟨.giga, rfl, letters .giga h (by decide)⟩
  case h_8 => exact ⟨.tera, rfl, letters .tera h (by decide)⟩
  case h_9 => exact ⟨.peta, rfl, letters .peta h (by decide)⟩
  case h_10 => exact ⟨.exa, rfl, letters .exa h (by decide)⟩
  case h_11 => exact ⟨.kibi, rfl, letters .kibi h (by decide)⟩
  case h_12 => exact ⟨.mebi, rfl, letters .mebi h (by decide)⟩
  case h_13 => exact ⟨.gibi, rfl, letters .gibi h (by decide)⟩
  case h_14 => exact ⟨.tebi, rfl, letters .tebi h (by decide)⟩
  case h_15 => exact ⟨.pebi, rfl, letters .pebi h (by decide)⟩
  case h_16 => exact ⟨.exbi, rfl, letters .exbi h (by decide)⟩
  case h_17 => exact exists_scientific false h
  case h_18 => exact exists_scientific true h
  case h_19 => cases h

/-- What a number in front of a suffix consists of: digits, and others behind a point if there is
one. -/
theorem exists_number {number whole fraction : List Char} (hc : number.all isNumberChar = true)
    (h : splitPoint number = (whole, fraction)) (hp : '.' ∉ fraction) :
    ∃ (front : Digits) (behind : Option Digits), whole = front.chars ∧
      fraction = (behind.getD []).chars ∧
      number = front.chars ++ behind.elim [] fun ds => '.' :: ds.chars := by
  have digits {cs : List Char} (hs : cs ⊆ number) (hn : '.' ∉ cs) :
      ∃ ds : Digits, cs = ds.chars := by
    refine exists_digits (List.all_eq_true.2 fun c hcs => ?_)
    obtain hd | hd := Bool.or_eq_true_iff.1 (List.all_eq_true.1 hc c (hs hcs))
    · exact hd
    · exact absurd (eq_of_beq hd ▸ hcs) hn
  obtain ⟨hw, hf⟩ := Prod.mk.inj h
  have parts : number = whole ++ number.dropWhile (· != '.') := by
    rw [← hw, List.takeWhile_append_dropWhile]
  have noPoint : '.' ∉ whole := by
    intro hm
    rw [← hw] at hm
    simpa using List.mem_takeWhile_imp hm
  obtain ⟨front, rfl⟩ := digits (hw ▸ (List.takeWhile_prefix _).subset) noPoint
  cases hd : number.dropWhile (· != '.') with
  | nil =>
    rw [hd] at hf parts
    exact ⟨front, none, rfl, hf.symm, parts⟩
  | cons c rest =>
    have first := List.head?_dropWhile_not (· != '.') number
    rw [hd] at first hf parts
    obtain rfl : c = '.' := by simpa using first
    obtain rfl : rest = fraction := hf
    obtain ⟨behind, rfl⟩ := digits (fun c hc => parts ▸ by simp [hc]) hp
    exact ⟨front, some behind, rfl, rfl, parts⟩

/-- Whether a text is a written quantity with nothing around it but white space. -/
def Spelling.IsIn (s : Spelling) (text : String) : Prop := IsCore text.toList s.chars

/-- What is read has been written. -/
theorem Reads.exists_spelling {text whole fraction suffix : List Char} {q : Quantity} {power : Int}
    (h : Reads text q whole fraction suffix power) : ∃ s : Spelling, trimChars text = s.chars ∧
      s.IsInRange ∧ s.digits < 2 ^ 128 ∧ s.quantity = q := by
  obtain ⟨sign, hs, hn⟩ := exists_sign (trimChars text)
  obtain ⟨front, behind, rfl, rfl, hnumber⟩ := exists_number List.all_takeWhile h.number h.onePoint
  obtain ⟨x, rfl, rfl, hx, hrange⟩ := exists_suffix h.factor
  have someDigit : front ++ behind.getD [] ≠ [] := by
    intro he
    obtain ⟨hf, hb⟩ := List.append_eq_nil_iff.1 he
    obtain hd | hd := h.someDigit
    · exact hd (by rw [hf]; rfl)
    · exact hd (by rw [hb]; rfl)
  let s : Spelling := ⟨sign, front, behind, x, someDigit⟩
  have written : trimChars text = s.chars := by
    have number : s.number = (splitSign (trimChars text)).2.takeWhile isNumberChar := by
      rw [hnumber]
      cases behind <;> rfl
    rw [Spelling.chars, number, ← h.rest, List.takeWhile_append_dropWhile]
    exact hs
  have mantissa : s.digits = q.mantissa := s.digitsValue_digits.symm.trans h.mantissa
  have decimal : s.decimal = q.decimal := by
    rw [← h.decimal, Digits.chars, List.length_map]
    rfl
  have places : s.behind.length = (behind.getD []).chars.length := (List.length_map _).symm
  refine ⟨s, written, ⟨hrange, ?_, ?_⟩, ?_, ?_⟩
  · rw [places]
    exact h.places
  · rw [decimal]
    exact h.inRange
  · rw [mantissa]
    exact h.fits
  · rw [Spelling.quantity, mantissa, decimal, hn.trans h.sign, hx]

theorem Digits.chars_injective : Function.Injective Digits.chars := by
  have digits : Function.Injective fun d : Fin 10 => Nat.digitChar d := by decide
  exact List.map_injective_iff.2 digits

/-- A sign is not taken for a part of the number behind it. -/
theorem Sign.append_inj {a b : Sign} {c d : Char} {cs ds : List Char} (hc : isNumberChar c = true)
    (hd : isNumberChar d = true) (h : a.chars ++ c :: cs = b.chars ++ d :: ds) :
    a = b ∧ c :: cs = d :: ds := by
  have parts := congrArg splitSign h
  rw [splitSign_chars a cs hc, splitSign_chars b ds hd] at parts
  obtain ⟨-, rest⟩ := Prod.mk.inj parts
  rw [rest] at h
  have signs := List.append_cancel_right h
  refine ⟨?_, rest⟩
  cases a <;> cases b <;> first | rfl | cases signs

namespace Suffix

/-- The suffixes without an exponent. -/
def letters : List Suffix :=
  [plain, nano, micro, milli, kilo, mega, giga, tera, peta, exa, kibi, mebi, gibi, tebi, pebi, exbi]

/-- An exponent has a digit, and a suffix of letters has none. -/
theorem mem_letters_iff {x : Suffix} : x ∈ letters ↔ x.chars.any Char.isDigit = false := by
  cases x with
  | scientific capital sign first others =>
    simp [letters, chars, Digits.chars]
  | _ => simp [letters, chars]

theorem exists_scientific_of_notMem {x : Suffix} (h : x ∉ letters) :
    ∃ capital sign first others, x = scientific capital sign first others := by
  cases x with
  | scientific capital sign first others => exact ⟨capital, sign, first, others, rfl⟩
  | _ => exact absurd (by simp [letters]) h

theorem chars_injective : Function.Injective Suffix.chars := by
  have apart : (letters.map chars).Nodup := by decide
  have number (d : Fin 10) := isNumberChar_of_isDigit (isDigit_digitChar d)
  intro x y h
  have same : x ∈ letters ↔ y ∈ letters := by rw [mem_letters_iff, mem_letters_iff, h]
  by_cases hx : x ∈ letters
  · exact List.inj_on_of_nodup_map apart hx (same.1 hx) h
  · obtain ⟨capital, sign, first, others, rfl⟩ := exists_scientific_of_notMem hx
    obtain ⟨capital', sign', first', others', rfl⟩ := exists_scientific_of_notMem (mt same.2 hx)
    obtain ⟨letter, rest⟩ := List.cons.inj h
    obtain rfl : capital = capital' := by
      cases capital <;> cases capital' <;> first | rfl | cases letter
    obtain ⟨rfl, digits⟩ := Sign.append_inj (number first) (number first') rest
    have same : first :: others = first' :: others' := Digits.chars_injective digits
    obtain ⟨rfl, rfl⟩ := List.cons.inj same
    rfl

end Suffix

namespace Spelling

theorem pointed_injective {s t : Spelling} (h : s.pointed = t.pointed) :
    s.fraction = t.fraction := by
  unfold pointed at h
  split at h <;> split at h
  · next hs _ ht => rw [hs, ht]
  · cases h
  · cases h
  · next hs _ _ ht => rw [hs, ht, Digits.chars_injective (List.cons.inj h).2]

/-- No two quantities are written alike. -/
theorem chars_injective : Function.Injective Spelling.chars := by
  intro s t h
  obtain ⟨c, cs, hs, hc⟩ := s.exists_number_eq_cons
  obtain ⟨d, ds, ht, hd⟩ := t.exists_number_eq_cons
  have cut (u : Spelling) : (u.number ++ u.suffix.chars).takeWhile isNumberChar = u.number ∧
      (u.number ++ u.suffix.chars).dropWhile isNumberChar = u.suffix.chars := by
    rw [List.takeWhile_append_of_pos u.isNumberChar_number, u.suffix.takeWhile_chars,
      List.dropWhile_append_of_pos u.isNumberChar_number, u.suffix.dropWhile_chars, List.append_nil]
    exact ⟨rfl, rfl⟩
  obtain ⟨sign, rest⟩ : s.sign = t.sign ∧
      s.number ++ s.suffix.chars = t.number ++ t.suffix.chars := by
    rw [chars, chars, hs, ht] at h
    rw [hs, ht]
    exact Sign.append_inj hc hd h
  have number : s.number = t.number := by rw [← (cut s).1, ← (cut t).1, rest]
  have suffix : s.suffix = t.suffix := by
    apply Suffix.chars_injective
    rw [← (cut s).2, ← (cut t).2, rest]
  have whole : s.whole = t.whole := by
    apply Digits.chars_injective
    have parts := congrArg splitPoint number
    rw [splitPoint_number, splitPoint_number] at parts
    exact (Prod.mk.inj parts).1
  have fraction : s.fraction = t.fraction := by
    apply pointed_injective
    rw [Spelling.number, Spelling.number, whole] at number
    exact List.append_cancel_left number
  cases s
  cases t
  cases sign
  cases suffix
  cases whole
  cases fraction
  rfl

end Spelling

/-- White space around a quantity does not count. -/
theorem ofChars?_eq_of_trimChars {text : List Char} {s : Spelling} (h : trimChars text = s.chars) :
    ofChars? text = ofChars? s.chars := by
  rw [ofChars?, ofChars?, h, trimChars_of_any s.any_isBlank]

/-- A text is read as a quantity just when one is written in it that has not too many digits, in all
and behind the point, and no exponent out of range. -/
theorem parse?_eq_some_iff {text : String} {q : Quantity} : parse? text = some q ↔
    ∃ s : Spelling, s.IsIn text ∧ s.IsInRange ∧ s.digits < 2 ^ 128 ∧ s.quantity = q := by
  simp only [Spelling.IsIn, ← trimChars_eq_iff]
  constructor
  · intro h
    obtain ⟨_, _, _, _, reads⟩ := ofChars?_eq_some_iff.1 h
    exact reads.exists_spelling
  · rintro ⟨s, hs, hr, hd, rfl⟩
    rw [parse?, ofChars?_eq_of_trimChars hs, Spelling.ofChars?_chars hr]
    exact if_pos hd

end MultiCluster.Quantity
