import Mathlib.Data.Nat.Digits.Defs
import MultiCluster.Proofs.Quantity.Reading
import MultiCluster.Proofs.Quantity.Rounding
import MultiCluster.Proofs.Text.Blank

/-! How quantities are written, which numbers they stand for, and that they are read so. -/
namespace MultiCluster.Quantity

open Text

/-- Decimal digits, the most significant first. -/
abbrev Digits := List (Fin 10)

namespace Digits

def chars (ds : Digits) : List Char := ds.map fun d : Fin 10 => Nat.digitChar d

def value (ds : Digits) : Nat := Nat.ofDigits 10 (ds.reverse.map Fin.val)

/-- What digits behind a point stand for. -/
def behindPoint (ds : Digits) : ℚ := Nat.ofDigits 10⁻¹ (0 :: ds.map Fin.val)

end Digits

/-- What stands in front of a number. -/
inductive Sign
  | bare
  | plus
  | minus
  deriving DecidableEq

namespace Sign

def chars : Sign → List Char
  | bare => []
  | plus => ['+']
  | minus => ['-']

def isMinus (s : Sign) : Bool := s == minus

def factor (s : Sign) : Int := if s.isMinus then -1 else 1

end Sign

/-- What stands behind a number: the letters for powers of a thousand and of 1024, or an exponent
with one digit at least. -/
inductive Suffix
  | plain
  | nano
  | micro
  | milli
  | kilo
  | mega
  | giga
  | tera
  | peta
  | exa
  | kibi
  | mebi
  | gibi
  | tebi
  | pebi
  | exbi
  | scientific (capital : Bool) (sign : Sign) (first : Fin 10) (others : Digits)

namespace Suffix

def chars : Suffix → List Char
  | plain => []
  | nano => ['n']
  | micro => ['u']
  | milli => ['m']
  | kilo => ['k']
  | mega => ['M']
  | giga => ['G']
  | tera => ['T']
  | peta => ['P']
  | exa => ['E']
  | kibi => ['K', 'i']
  | mebi => ['M', 'i']
  | gibi => ['G', 'i']
  | tebi => ['T', 'i']
  | pebi => ['P', 'i']
  | exbi => ['E', 'i']
  | scientific capital sign first others =>
    (if capital then 'E' else 'e') :: (sign.chars ++ Digits.chars (first :: others))

/-- The power of ten that the number is multiplied by. -/
def power : Suffix → Int
  | nano => -9
  | micro => -6
  | milli => -3
  | kilo => 3
  | mega => 6
  | giga => 9
  | tera => 12
  | peta => 15
  | exa => 18
  | scientific _ sign first others => sign.factor * Digits.value (first :: others)
  | _ => 0

/-- The power of two that the number is multiplied by. -/
def binary : Suffix → Nat
  | kibi => 10
  | mebi => 20
  | gibi => 30
  | tebi => 40
  | pebi => 50
  | exbi => 60
  | _ => 0

end Suffix

/-- A written quantity. There may be a point with no digits in front of it or behind it, but not
without any digit. -/
structure Spelling where
  sign : Sign
  whole : Digits
  fraction : Option Digits
  suffix : Suffix
  someDigit : whole ++ fraction.getD [] ≠ []

namespace Spelling

variable (s : Spelling)

/-- The point, if there is one, and the digits behind it. -/
def pointed : List Char :=
  match s.fraction with
  | none => []
  | some behind => '.' :: behind.chars

def number : List Char := s.whole.chars ++ s.pointed

def chars : List Char := s.sign.chars ++ (s.number ++ s.suffix.chars)

def text : String := String.ofList s.chars

/-- The digits behind the point. -/
def behind : Digits := s.fraction.getD []

/-- The number that is written. -/
def value : ℚ :=
  s.sign.factor * (s.whole.value + s.behind.behindPoint) * (2 ^ s.suffix.binary * 10 ^ s.suffix.power)

/-- The digits as a whole number, as if there were no point. -/
def digits : Nat := Digits.value (s.whole ++ s.behind)

/-- The exponent of ten that is left where the point is ignored. -/
def decimal : Int := s.suffix.power - s.behind.length

/-- All exponents are 32-bit numbers, and so is the number of digits behind the point. -/
def IsInRange : Prop :=
  isExponent s.suffix.power ∧ isExponent s.behind.length ∧ isExponent s.decimal

instance : Decidable s.IsInRange := inferInstanceAs (Decidable (_ ∧ _ ∧ _))

/-- What the text is to be read as. -/
def quantity : Quantity where
  negative := s.sign.isMinus
  mantissa := s.digits
  decimal := s.decimal
  binary := s.suffix.binary

end Spelling

namespace Digits

theorem value_cons (d : Fin 10) (ds : Digits) :
    value (d :: ds) = d * 10 ^ ds.length + value ds := by
  rw [value, List.reverse_cons, List.map_append, Nat.ofDigits_append, value]
  simp [Nat.mul_comm, Nat.add_comm]

theorem value_append (ds es : Digits) : value (ds ++ es) = value ds * 10 ^ es.length + value es := by
  induction ds with
  | nil => simp [value]
  | cons d ds ih =>
    rw [List.cons_append, value_cons, value_cons, ih, List.length_append, Nat.pow_add]
    ring

theorem behindPoint_cons (d : Fin 10) (ds : Digits) :
    behindPoint (d :: ds) = (d + ds.behindPoint) / 10 := by
  simp only [behindPoint, List.map_cons, Nat.ofDigits]
  ring

theorem behindPoint_eq (ds : Digits) : ds.behindPoint = ds.value / 10 ^ ds.length := by
  induction ds with
  | nil => simp [behindPoint, value, Nat.ofDigits]
  | cons d ds ih =>
    rw [behindPoint_cons, ih, value_cons, List.length_cons, pow_succ]
    push_cast
    field_simp

end Digits

theorem isDigit_digitChar : ∀ d : Fin 10, (Nat.digitChar d).isDigit = true := by decide

theorem isDigit_of_mem_chars {ds : Digits} {c : Char} (h : c ∈ ds.chars) : c.isDigit = true := by
  obtain ⟨d, -, rfl⟩ := List.mem_map.1 h
  exact isDigit_digitChar d

theorem digitsValue_chars (ds : Digits) : digitsValue ds.chars = ds.value := by
  have digit : ∀ d : Fin 10, (Nat.digitChar d).toNat - '0'.toNat = d := by decide
  rw [digitsValue, Digits.chars, List.foldl_map, Digits.value, Nat.ofDigits_eq_foldr, List.map_reverse,
    List.foldr_reverse, List.foldl_map]
  simp only [digit, Nat.cast_id]
  simp only [Nat.add_comm, Nat.mul_comm]

theorem isNumberChar_of_isDigit {c : Char} (h : c.isDigit = true) : isNumberChar c = true := by
  rw [isNumberChar, h]
  rfl

theorem isBlank_of_isNumberChar {c : Char} (h : isNumberChar c = true) : isBlank c = false := by
  obtain h | h := Bool.or_eq_true_iff.1 h
  · exact isBlank_of_isDigit h
  · rw [eq_of_beq h]
    rfl

private theorem ne_sign {c : Char} (hc : isNumberChar c = true) : c ≠ '+' ∧ c ≠ '-' := by
  constructor <;> rintro rfl <;> exact absurd hc (by decide)

theorem Sign.any_isBlank (sign : Sign) : sign.chars.any isBlank = false := by
  cases sign <;> rfl

theorem any_isBlank_of_forall {cs : List Char} (h : ∀ c ∈ cs, isNumberChar c = true) :
    cs.any isBlank = false := by
  rw [List.any_eq_false]
  intro c hc
  rw [isBlank_of_isNumberChar (h c hc)]
  decide

theorem Digits.any_isBlank (ds : Digits) : ds.chars.any isBlank = false :=
  any_isBlank_of_forall fun _ hc => isNumberChar_of_isDigit (isDigit_of_mem_chars hc)

theorem splitSign_chars (sign : Sign) {c : Char} (cs : List Char) (hc : isNumberChar c = true) :
    splitSign (sign.chars ++ c :: cs) = (sign.isMinus, c :: cs) := by
  cases sign with
  | plus | minus => rfl
  | bare => simp [splitSign, Sign.chars, ne_sign hc, Sign.isMinus]

theorem readDigits_chars {ds : Digits} (h : ds ≠ []) : readDigits ds.chars = some ds.value := by
  have he : ds.chars.isEmpty = false := by simpa [Digits.chars] using h
  have ha : ds.chars.all Char.isDigit = true := List.all_eq_true.2 fun _ => isDigit_of_mem_chars
  rw [readDigits, he, ha, digitsValue_chars]
  rfl

theorem readSigned_chars (width : Nat) (sign : Sign) {ds : Digits} (h : ds ≠ []) :
    readSigned width (sign.chars ++ ds.chars) = Word.signed? width (sign.factor * ds.value) := by
  have hr := readDigits_chars h
  cases sign with
  | plus | minus => simp [readSigned, Sign.chars, hr, Sign.factor, Sign.isMinus]
  | bare =>
    obtain ⟨d, ds, rfl⟩ := List.exists_cons_of_ne_nil h
    have hd := ne_sign (isNumberChar_of_isDigit (isDigit_digitChar d))
    rw [Digits.chars, List.map_cons] at hr ⊢
    simp [readSigned, Sign.chars, hr, Sign.factor, Sign.isMinus, hd]

namespace Suffix

theorem any_isBlank (x : Suffix) : x.chars.any isBlank = false := by
  cases x with
  | scientific capital sign first others =>
    rw [chars, List.any_cons, List.any_append, sign.any_isBlank, Digits.any_isBlank]
    cases capital <;> rfl
  | _ => rfl

theorem takeWhile_chars (x : Suffix) : x.chars.takeWhile isNumberChar = [] := by
  cases x with
  | scientific capital => cases capital <;> rfl
  | _ => rfl

theorem dropWhile_chars (x : Suffix) : x.chars.dropWhile isNumberChar = x.chars := by
  cases x with
  | scientific capital => cases capital <;> rfl
  | _ => rfl

/-- A letter for an exponent is not the suffix of the same letter, nor the first letter of another. -/
private theorem suffix?_letter (capital : Bool) {c : Char} (cs : List Char) (hc : c ≠ 'i') :
    suffix? ((if capital then 'E' else 'e') :: c :: cs) =
      (readSigned 32 (c :: cs)).map (·, 0) := by
  cases capital
  · rfl
  · simp [suffix?, hc]

theorem suffix?_chars {x : Suffix} (h : isExponent x.power) :
    suffix? x.chars = some (x.power, x.binary) := by
  cases x with
  | scientific capital sign first others =>
    have hr := readSigned_chars 32 sign (List.cons_ne_nil first others)
    obtain ⟨c, cs, hs, hc⟩ : ∃ c cs, sign.chars ++ Digits.chars (first :: others) = c :: cs ∧
        c ≠ 'i' := by
      have digit : ∀ d : Fin 10, Nat.digitChar d ≠ 'i' := by decide
      cases sign with
      | plus | minus => exact ⟨_, _, rfl, by decide⟩
      | bare => exact ⟨_, _, rfl, digit first⟩
    rw [chars, hs, suffix?_letter capital cs hc, ← hs, hr, Word.signed?]
    simp only [isExponent, Bool.and_eq_true, decide_eq_true_eq] at h
    exact congrArg (Option.map (·, 0)) (if_pos h)
  | _ => rfl

end Suffix

namespace Spelling

variable (s : Spelling)

theorem pointed_eq : s.pointed = [] ∧ s.behind = [] ∨ s.pointed = '.' :: s.behind.chars := by
  unfold pointed behind
  cases s.fraction with
  | none => exact .inl ⟨rfl, rfl⟩
  | some behind => exact .inr rfl

theorem isNumberChar_number : ∀ c ∈ s.number, isNumberChar c = true := by
  have digits {ds : Digits} {c : Char} (hc : c ∈ ds.chars) : isNumberChar c = true :=
    isNumberChar_of_isDigit (isDigit_of_mem_chars hc)
  intro c hc
  obtain hc | hc := List.mem_append.1 hc
  · exact digits hc
  · obtain ⟨hp, -⟩ | hp := s.pointed_eq
    · rw [hp] at hc
      cases hc
    · rw [hp] at hc
      obtain rfl | hc := List.mem_cons.1 hc
      · rfl
      · exact digits hc

/-- A number has a digit, so that it does not look like a sign. -/
theorem exists_number_eq_cons : ∃ c cs, s.number = c :: cs ∧ isNumberChar c = true := by
  obtain ⟨c, cs, h⟩ : ∃ c cs, s.number = c :: cs := by
    apply List.exists_cons_of_ne_nil
    intro h
    obtain ⟨hw, hp⟩ := List.append_eq_nil_iff.1 h
    have hb : s.behind = [] := by
      obtain ⟨-, hb⟩ | hb := s.pointed_eq
      · exact hb
      · rw [hb] at hp
        cases hp
    apply s.someDigit
    exact List.append_eq_nil_iff.2 ⟨List.map_eq_nil_iff.1 hw, hb⟩
  exact ⟨c, cs, h, s.isNumberChar_number c (h ▸ List.mem_cons_self)⟩

theorem any_isBlank : s.chars.any isBlank = false := by
  have number : s.number.any isBlank = false := any_isBlank_of_forall s.isNumberChar_number
  rw [chars, List.any_append, List.any_append, s.sign.any_isBlank, number, s.suffix.any_isBlank]
  rfl

theorem splitPoint_number : splitPoint s.number = (s.whole.chars, s.behind.chars) := by
  have plain : ∀ c ∈ s.whole.chars, (c != '.') = true := by
    intro c hc
    have hd := isDigit_of_mem_chars hc
    rw [bne_iff_ne]
    rintro rfl
    cases hd
  rw [splitPoint, number, List.takeWhile_append_of_pos plain, List.dropWhile_append_of_pos plain]
  obtain ⟨hp, hb⟩ | hp := s.pointed_eq
  · rw [hp, hb]
    simp [Digits.chars]
  · rw [hp]
    simp

theorem splitSign_trimChars :
    splitSign (trimChars s.chars) = (s.sign.isMinus, s.number ++ s.suffix.chars) := by
  obtain ⟨c, cs, hn, hc⟩ := s.exists_number_eq_cons
  rw [trimChars_of_any s.any_isBlank, chars, hn, List.cons_append]
  exact splitSign_chars s.sign _ hc

theorem splitPoint_takeWhile : splitPoint ((s.number ++ s.suffix.chars).takeWhile isNumberChar) =
    (s.whole.chars, s.behind.chars) := by
  rw [List.takeWhile_append_of_pos s.isNumberChar_number, s.suffix.takeWhile_chars,
    List.append_nil, splitPoint_number]

theorem digitsValue_digits : digitsValue (s.whole.chars ++ s.behind.chars) = s.digits := by
  have h : s.whole.chars ++ s.behind.chars = (s.whole ++ s.behind).chars := List.map_append.symm
  rw [h, digitsValue_chars]
  rfl

theorem reads_chars {s : Spelling} (h : s.IsInRange) (hd : s.digits < wordLimit) :
    Reads s.chars s.quantity s.whole.chars s.behind.chars s.suffix.chars s.suffix.power where
  sign := by rw [splitSign_trimChars]; rfl
  number := by rw [splitSign_trimChars, splitPoint_takeWhile]
  rest := by
    rw [splitSign_trimChars, List.dropWhile_append_of_pos s.isNumberChar_number,
      s.suffix.dropWhile_chars]
  someDigit := by
    have hs := s.someDigit
    contrapose! hs
    exact List.append_eq_nil_iff.2 ⟨List.map_eq_nil_iff.1 hs.1, List.map_eq_nil_iff.1 hs.2⟩
  onePoint := by
    intro hp
    cases isDigit_of_mem_chars hp
  mantissa := s.digitsValue_digits
  fits := hd
  factor := Suffix.suffix?_chars h.1
  places := by
    rw [Digits.chars, List.length_map]
    exact h.2.1
  decimal := by rw [Digits.chars, List.length_map]; rfl
  inRange := h.2.2

/-- What is written is read as what it stands for, unless it has too many digits. -/
theorem ofChars?_chars {s : Spelling} (h : s.IsInRange) :
    ofChars? s.chars = if s.digits < wordLimit then some s.quantity else none := by
  split
  case isTrue hd => exact ofChars?_eq_some_iff.2 ⟨_, _, _, _, reads_chars h hd⟩
  case isFalse hd =>
    refine Option.eq_none_iff_forall_ne_some.2 fun q hq => hd ?_
    obtain ⟨whole, fraction, suffix, power, reads⟩ := ofChars?_eq_some_iff.1 hq
    have hn := reads.number
    rw [splitSign_trimChars, splitPoint_takeWhile] at hn
    obtain ⟨rfl, rfl⟩ := Prod.mk.inj hn
    rw [← s.digitsValue_digits, reads.mantissa]
    exact reads.fits

/-- What is read is the number that is written. -/
theorem exact_quantity (scale : Int) : s.quantity.exact scale = s.value / 10 ^ scale := by
  have hd : (s.digits : ℚ) / 10 ^ s.behind.length = s.whole.value + s.behind.behindPoint := by
    rw [digits, Digits.value_append, Digits.behindPoint_eq]
    push_cast
    field_simp
  have hp : (10 : ℚ) ^ (s.decimal - scale) =
      10 ^ s.suffix.power / 10 ^ s.behind.length / 10 ^ scale := by
    rw [decimal, zpow_sub₀ (by norm_num), zpow_sub₀ (by norm_num), zpow_natCast]
  have hs : ((if s.sign.isMinus then -1 else 1 : ℚ)) = s.sign.factor := by
    rw [Sign.factor]
    split <;> norm_num
  rw [exact, quantity, value, ← hd, hp, hs]
  ring

end Spelling

end MultiCluster.Quantity
