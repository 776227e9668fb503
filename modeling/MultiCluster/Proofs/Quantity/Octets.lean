import MultiCluster.Proofs.Quantity.Grammar
import MultiCluster.Proofs.Quantity.Words
import MultiCluster.Proofs.Text.Octets

/-! Reading quantities step by step on octets and machine words. No text is cut within a character, no
digit falls below zero, and what is read is what is written. -/
namespace MultiCluster.Quantity

open Text

/-- Why reading stops: the text does not hold a quantity, or a step cannot be taken. -/
inductive Stop
  | refused
  | broken

/-- What a step gives, or the reason to stop. -/
def orStop {α : Type} (stop : Stop) : Option α → Except Stop α
  | some a => .ok a
  | none => .error stop

theorem orStop_some_bind {α β : Type} (stop : Stop) (a : α) (f : α → Except Stop β) :
    orStop stop (some a) >>= f = f a := rfl

/-- An octet less that of the digit zero. -/
def digitOf? (octet : UInt8) : Option Nat :=
  if octet.toNat < 48 then none else some (octet.toNat - 48)

/-- The number that digits write, in a word of 128 bits that begins with some of them. The products and
the sums are checked. -/
def gather (n : Nat) : List UInt8 → Except Stop Nat
  | [] => .ok n
  | octet :: octets => do
    let tens ← orStop .refused (Word.unsigned? 128 (n * 10))
    let digit ← orStop .broken (digitOf? octet)
    let next ← orStop .refused (Word.unsigned? 128 (tens + digit))
    gather next octets

/-- The sign that the first octet is, if it is one, and the text cut behind it. -/
def cutSign (cs : List Char) : Except Stop (Bool × List Char) := do
  let first ← orStop .refused (cs.flatMap String.utf8EncodeChar).head?
  if first = 45 then
    let rest ← orStop .broken (textBehind? 1 cs)
    return (true, rest)
  if first = 43 then
    let rest ← orStop .broken (textBehind? 1 cs)
    return (false, rest)
  return (false, cs)

/-- The offset of the first character that is not one of a number, or else the size of the text. -/
def numberSize (cs : List Char) : Nat :=
  (((offsetsFrom 0 cs).find? fun p => !isNumberChar p.2).map (·.1)).getD
    (cs.flatMap String.utf8EncodeChar).length

/-- What a suffix stands for. An exponent is cut off behind the first octet. -/
def cutSuffix (cs : List Char) : Except Stop (Int × Nat) :=
  match cs with
  | ['E'] | ['E', 'i'] => orStop .refused (suffix? cs)
  | 'e' :: _ | 'E' :: _ => do
    let digits ← orStop .broken (textBehind? 1 cs)
    orStop .refused ((readSigned 32 digits).map (·, 0))
  | _ => orStop .refused (suffix? cs)

/-- The quantity of digits around a point and a suffix, with 128 bits for the mantissa and 32 for
exponents and for the number of digits behind the point. -/
def assemble (negative : Bool) (whole fraction suffix : List Char) : Except Stop Quantity := do
  let mantissa ← gather 0 ((whole ++ fraction).flatMap String.utf8EncodeChar)
  let (power, binary) ← cutSuffix suffix
  let places ← orStop .refused (Word.signed? 32 (fraction.flatMap String.utf8EncodeChar).length)
  let decimal ← orStop .refused (Word.signed? 32 (power - places))
  return { negative, mantissa, decimal, binary }

/-- Reading on octets. -/
def ofOctets (text : List Char) : Except Stop Quantity := do
  let (negative, rest) ← cutSign (trimChars text)
  let number ← orStop .broken (textBefore? (numberSize rest) rest)
  let suffix ← orStop .broken (textBehind? (numberSize rest) rest)
  let (whole, fraction) := splitPoint number
  if whole.isEmpty && fraction.isEmpty then .error .refused
  else if fraction.contains '.' then .error .refused
  else assemble negative whole fraction suffix

/-- The first character, one of a single octet, is cut off. -/
private theorem textBehind?_cons {c : Char} {octet : UInt8} (hc : String.utf8EncodeChar c = [octet])
    (cs : List Char) : textBehind? 1 (c :: cs) = some cs := by
  have h := textBehind?_append [c] cs
  rwa [List.flatMap_singleton, hc] at h

theorem cutSign_eq {cs : List Char} (h : cs ≠ []) : cutSign cs = .ok (splitSign cs) := by
  have minus : String.utf8EncodeChar '-' = [45] := by decide
  have plus : String.utf8EncodeChar '+' = [43] := by decide
  obtain ⟨c, cs, rfl⟩ := List.exists_cons_of_ne_nil h
  obtain ⟨octet, ho⟩ : ∃ octet, ((c :: cs).flatMap String.utf8EncodeChar).head? = some octet := by
    rw [← Option.isSome_iff_exists, List.isSome_head?, List.flatMap_cons]
    simp
  have isMinus := head?_flatMap_iff minus (c :: cs)
  have isPlus := head?_flatMap_iff plus (c :: cs)
  rw [ho, List.head?_cons, Option.some_inj, Option.some_inj] at isMinus isPlus
  rw [cutSign, ho]
  by_cases hm : c = '-'
  · subst hm
    simp only [isMinus.2 rfl, textBehind?_cons minus]
    rfl
  · by_cases hp : c = '+'
    · subst hp
      simp only [isPlus.2 rfl, textBehind?_cons plus]
      rfl
    · have signless : splitSign (c :: cs) = (false, c :: cs) := by simp [splitSign, hm, hp]
      rw [signless]
      change (if octet = 45 then _ else if octet = 43 then _ else _) = _
      rw [if_neg (mt isMinus.1 hm), if_neg (mt isPlus.1 hp)]
      rfl

theorem numberSize_eq (cs : List Char) :
    numberSize cs = ((cs.takeWhile isNumberChar).flatMap String.utf8EncodeChar).length := by
  have number : ∀ c ∈ cs.takeWhile isNumberChar, isNumberChar c = true := fun c hc =>
    List.mem_takeWhile_imp hc
  have skipped : ∀ (offset : Nat) (ds : List Char), (∀ c ∈ ds, isNumberChar c = true) →
      (offsetsFrom offset ds).find? (fun p => !isNumberChar p.2) = none := by
    intro offset ds hds
    induction ds generalizing offset with
    | nil => rfl
    | cons d ds ih =>
      obtain ⟨hd, hds⟩ := List.forall_mem_cons.1 hds
      rw [offsetsFrom, List.find?_cons_of_neg (by simp [hd]), ih _ hds]
  have parts : cs = cs.takeWhile isNumberChar ++ cs.dropWhile isNumberChar :=
    List.takeWhile_append_dropWhile.symm
  have first := List.head?_dropWhile_not isNumberChar cs
  rw [numberSize]
  conv_lhs => rw [parts, offsetsFrom_append, List.find?_append, skipped _ _ number]
  cases hd : cs.dropWhile isNumberChar with
  | nil => simp [offsetsFrom]
  | cons c rest =>
    rw [hd] at first
    have ends : isNumberChar c = false := by simpa using first
    simp [offsetsFrom, ends]

/-- A number is cut from its suffix between two characters. -/
theorem textBefore?_numberSize (cs : List Char) :
    textBefore? (numberSize cs) cs = some (cs.takeWhile isNumberChar) := by
  have h := textBefore?_append (cs.takeWhile isNumberChar) (cs.dropWhile isNumberChar)
  rwa [List.takeWhile_append_dropWhile, ← numberSize_eq] at h

theorem textBehind?_numberSize (cs : List Char) :
    textBehind? (numberSize cs) cs = some (cs.dropWhile isNumberChar) := by
  have h := textBehind?_append (cs.takeWhile isNumberChar) (cs.dropWhile isNumberChar)
  rwa [List.takeWhile_append_dropWhile, ← numberSize_eq] at h

/-- Digits that have been added to a number only make it greater. -/
private theorem le_foldl (n : Nat) (cs : List Char) :
    n ≤ cs.foldl (fun n c => n * 10 + (c.toNat - '0'.toNat)) n := by
  induction cs generalizing n with
  | nil => exact le_refl n
  | cons c cs ih => exact (show n ≤ n * 10 + _ by omega).trans (ih _)

/-- Once the word is left, no further digit leads back into it. -/
theorem gather_eq {n : Nat} {cs : List Char} (hn : n < wordLimit)
    (h : ∀ c ∈ cs, c.isDigit = true) : gather n (cs.flatMap String.utf8EncodeChar) =
      orStop .refused (Word.unsigned? 128
        (cs.foldl (fun n c => n * 10 + (c.toNat - '0'.toNat)) n)) := by
  induction cs generalizing n with
  | nil =>
    have fits : Word.unsigned? 128 n = some n := if_pos hn
    rw [List.foldl_nil, fits]
    rfl
  | cons c cs ih =>
    obtain ⟨hc, hcs⟩ := List.forall_mem_cons.1 h
    have range : 48 ≤ c.toNat ∧ c.toNat ≤ 57 := Char.isDigit_iff_toNat.1 hc
    have digit : digitOf? (UInt8.ofNat c.toNat) = some (c.toNat - '0'.toNat) := by
      rw [digitOf?, toNat_ofNat_of_lt (by omega)]
      exact if_neg (by omega)
    rw [List.flatMap_cons, utf8EncodeChar_of_lt (by omega), List.singleton_append, gather, digit,
      List.foldl_cons]
    generalize c.toNat - '0'.toNat = d
    have more := le_foldl (n * 10 + d) cs
    have fits {m : Nat} (h : m < wordLimit) : Word.unsigned? 128 m = some m := if_pos h
    have leaves {m : Nat} (h : ¬ m < wordLimit) : Word.unsigned? 128 m = none := if_neg h
    by_cases next : n * 10 + d < wordLimit
    · rw [fits (by omega), orStop_some_bind, orStop_some_bind, fits next]
      exact ih next hcs
    · rw [leaves (by omega : ¬ cs.foldl _ (n * 10 + d) < wordLimit)]
      by_cases tens : n * 10 < wordLimit
      · rw [fits tens, orStop_some_bind, orStop_some_bind, leaves next]
        rfl
      · rw [leaves tens]
        rfl

theorem cutSuffix_eq (cs : List Char) : cutSuffix cs = orStop .refused (suffix? cs) := by
  have small : String.utf8EncodeChar 'e' = [101] := by decide
  have capital : String.utf8EncodeChar 'E' = [69] := by decide
  unfold cutSuffix
  split
  case h_1 => rfl
  case h_2 => rfl
  case h_3 digits =>
    rw [textBehind?_cons small]
    rfl
  case h_4 digits hc hi =>
    rw [textBehind?_cons capital, suffix?]
    · rfl
    · exact hc
    · exact hi
  case h_5 => rfl

theorem length_flatMap_digits {cs : List Char} (h : ∀ c ∈ cs, c.isDigit = true) :
    (cs.flatMap String.utf8EncodeChar).length = cs.length := by
  induction cs with
  | nil => rfl
  | cons c cs ih =>
    obtain ⟨hc, hcs⟩ := List.forall_mem_cons.1 h
    have range : 48 ≤ c.toNat ∧ c.toNat ≤ 57 := Char.isDigit_iff_toNat.1 hc
    rw [List.flatMap_cons, utf8EncodeChar_of_lt (by omega), List.length_append, ih hcs,
      List.length_singleton, List.length_cons, Nat.add_comm]

/-- The quantity of digits around a point and a suffix, on numbers. -/
def compose? (negative : Bool) (whole fraction suffix : List Char) : Option Quantity :=
  if digitsValue (whole ++ fraction) ≥ wordLimit then none else
  (suffix? suffix).bind fun p =>
    if !isExponent fraction.length then none else
    if !isExponent (p.1 - fraction.length) then none else
    some ⟨negative, digitsValue (whole ++ fraction), p.1 - fraction.length, p.2⟩

/-- Words make no difference. -/
theorem assemble_eq {negative : Bool} {whole fraction suffix : List Char}
    (hw : ∀ c ∈ whole, c.isDigit = true) (hf : ∀ c ∈ fraction, c.isDigit = true) :
    assemble negative whole fraction suffix =
      orStop .refused (compose? negative whole fraction suffix) := by
  have digits : ∀ c ∈ whole ++ fraction, c.isDigit = true := List.forall_mem_append.2 ⟨hw, hf⟩
  rw [assemble, gather_eq (by decide) digits, cutSuffix_eq, length_flatMap_digits hf, compose?]
  change (do
    let mantissa ← orStop .refused (Word.unsigned? 128 (digitsValue (whole ++ fraction)))
    _) = _
  generalize digitsValue (whole ++ fraction) = n
  by_cases hn : n < wordLimit
  case neg =>
    have leaves : Word.unsigned? 128 n = none := if_neg hn
    rw [leaves, if_pos (Nat.le_of_not_lt hn)]
    rfl
  have fits : Word.unsigned? 128 n = some n := if_pos hn
  rw [fits, orStop_some_bind, if_neg (Nat.not_le.2 hn)]
  cases suffix? suffix with
  | none => rfl
  | some p =>
    obtain ⟨power, binary⟩ := p
    rw [orStop_some_bind, signed?_eq, Option.bind_some]
    cases isExponent fraction.length with
    | false => rfl
    | true =>
      dsimp only
      rw [if_pos rfl, orStop_some_bind, signed?_eq]
      cases isExponent (power - fraction.length) <;> rfl

theorem ofOctets_eq {text : List Char} {negative : Bool} {rest whole fraction : List Char}
    (hr : splitSign (trimChars text) = (negative, rest))
    (hd : splitPoint (rest.takeWhile isNumberChar) = (whole, fraction)) : ofOctets text =
      if whole.isEmpty && fraction.isEmpty then .error .refused
      else if fraction.contains '.' then .error .refused
      else assemble negative whole fraction (rest.dropWhile isNumberChar) := by
  rw [ofOctets]
  by_cases empty : trimChars text = []
  · rw [empty] at hr ⊢
    cases hr
    cases hd
    rfl
  · rw [cutSign_eq empty, hr]
    change (do
      let number ← orStop .broken (textBefore? (numberSize rest) rest)
      _) = _
    rw [textBefore?_numberSize, textBehind?_numberSize, orStop_some_bind, orStop_some_bind, hd]

theorem ofChars?_eq {text : List Char} {negative : Bool} {rest whole fraction : List Char}
    (hr : splitSign (trimChars text) = (negative, rest))
    (hd : splitPoint (rest.takeWhile isNumberChar) = (whole, fraction)) : ofChars? text =
      if whole.isEmpty && fraction.isEmpty then none
      else if fraction.contains '.' then none
      else compose? negative whole fraction (rest.dropWhile isNumberChar) := by
  rw [ofChars?, hr]
  dsimp only
  rw [hd]
  dsimp only
  split
  · rfl
  split
  · rfl
  rw [compose?]
  split
  · rfl
  cases suffix? (rest.dropWhile isNumberChar) with
  | none => rfl
  | some p =>
    change (if _ then _ else _) = (if _ then _ else _)
    split
    · rfl
    · split <;> rfl

/-- On octets the same is read as on characters. -/
theorem ofOctets_eq_ofChars? (text : List Char) :
    ofOctets text = orStop .refused (ofChars? text) := by
  obtain ⟨negative, rest, hr⟩ : ∃ n r, splitSign (trimChars text) = (n, r) := ⟨_, _, rfl⟩
  obtain ⟨whole, fraction, hd⟩ : ∃ w f, splitPoint (rest.takeWhile isNumberChar) = (w, f) :=
    ⟨_, _, rfl⟩
  rw [ofOctets_eq hr hd, ofChars?_eq hr hd]
  split
  · rfl
  split
  · rfl
  next point =>
    have hp : '.' ∉ fraction := by simpa using point
    obtain ⟨front, behind, rfl, rfl, -⟩ := exists_number List.all_takeWhile hd hp
    exact assemble_eq (fun _ => isDigit_of_mem_chars) fun _ => isDigit_of_mem_chars

/-- How quantities are read, for every text. -/
structure QuantitiesRead : Prop where
  /-- A text is read just when a quantity is written in it whose digits and exponents are in
  range. -/
  reads : ∀ text q, parse? text = some q ↔
    ∃ s : Spelling, s.IsIn text ∧ s.IsInRange ∧ s.digits < 2 ^ 128 ∧ s.quantity = q
  single : ∀ text (s t : Spelling), s.IsIn text → t.IsIn text → s = t
  /-- What is read stands for the number that is written. -/
  denotes : ∀ text (s : Spelling) q, s.IsIn text → parse? text = some q →
    q.negative = s.sign.isMinus ∧
      (if q.negative then -1 else 1) * (q.mantissa * 10 ^ q.decimal * 2 ^ q.binary : ℚ) = s.value
  /-- No text is cut within a character, and no octet less than that of zero is taken for a
  digit. -/
  unbroken : ∀ text, ofOctets text ≠ .error .broken
  /-- Octets and words make no difference. -/
  alike : ∀ text : String, ofOctets text.toList = orStop .refused (parse? text)

theorem quantities_read : QuantitiesRead := by
  have single (text : String) (s t : Spelling) (hs : s.IsIn text) (ht : t.IsIn text) : s = t :=
    Spelling.chars_injective ((trimChars_eq_iff.2 hs).symm.trans (trimChars_eq_iff.2 ht))
  constructor
  case reads =>
    intro text q
    exact parse?_eq_some_iff
  case single => exact single
  case denotes =>
    intro text s q hs hq
    obtain ⟨t, ht, -, -, rfl⟩ := parse?_eq_some_iff.1 hq
    obtain rfl := single text s t hs ht
    refine ⟨rfl, ?_⟩
    have number := s.exact_quantity 0
    rw [zpow_zero, div_one] at number
    rw [← number, exact, sub_zero]
    ring
  case unbroken =>
    intro text h
    rw [ofOctets_eq_ofChars?] at h
    cases hq : ofChars? text <;> rw [hq] at h <;> cases h
  case alike =>
    intro text
    exact ofOctets_eq_ofChars? text.toList

namespace Spelling

/-- Nothing, with a point and so many zeros behind it. -/
def nothing (zeros : Nat) : Spelling where
  sign := .bare
  whole := [⟨0, Nat.succ_pos 9⟩]
  fraction := some (List.replicate zeros ⟨0, Nat.succ_pos 9⟩)
  suffix := .plain
  someDigit := List.cons_ne_nil _ _

theorem digits_nothing (zeros : Nat) : (nothing zeros).digits = 0 := by
  have value (n : Nat) : Digits.value (List.replicate n ⟨0, Nat.succ_pos 9⟩) = 0 := by
    induction n with
    | zero => rfl
    | succ n ih => rw [List.replicate_succ, Digits.value_cons, ih, Nat.zero_mul]
  exact value (zeros + 1)

theorem length_behind_nothing (zeros : Nat) : (nothing zeros).behind.length = zeros :=
  List.length_replicate

end Spelling

/-- It is not so that only the exponents have to be in range: with two to the 31 digits behind the
point, nothing is read. -/
theorem not_read_where_long : ¬ ∀ text, (∃ q, parse? text = some q) ↔ ∃ s : Spelling, s.IsIn text ∧
    isExponent s.suffix.power ∧ s.digits < 2 ^ 128 ∧ isExponent s.decimal := by
  intro h
  let s : Spelling := .nothing 2147483648
  have written : trimChars s.text.toList = s.chars := by
    rw [Spelling.text, String.toList_ofList, trimChars_of_any s.any_isBlank]
  have decimal : s.decimal = -2147483648 := by
    rw [Spelling.decimal, Spelling.length_behind_nothing]
    rfl
  have fits : s.digits < 2 ^ 128 := by
    rw [Spelling.digits_nothing]
    decide
  obtain ⟨q, hq⟩ := (h s.text).2 ⟨s, trimChars_eq_iff.1 written, by decide, fits, by
    rw [decimal]
    decide⟩
  obtain ⟨t, ht, hr, -, -⟩ := parse?_eq_some_iff.1 hq
  obtain rfl : t = s := Spelling.chars_injective ((trimChars_eq_iff.2 ht).symm.trans written)
  have places := hr.2.1
  rw [Spelling.length_behind_nothing] at places
  exact absurd places (by decide)

end MultiCluster.Quantity
