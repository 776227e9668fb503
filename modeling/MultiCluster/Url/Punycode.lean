/-! Texts of any characters as ASCII: first the ASCII characters, then numbers that say which others
stand where. The width of a number follows from the numbers before it. -/
namespace MultiCluster.Url.Punycode

/-- The value of a digit: letters of either case, then the decimal digits. -/
def digitValue? (c : Char) : Option Nat :=
  let n := c.toNat
  if 0x61 ≤ n && n ≤ 0x7A then some (n - 0x61)
  else if 0x41 ≤ n && n ≤ 0x5A then some (n - 0x41)
  else if 0x30 ≤ n && n ≤ 0x39 then some (n - 0x30 + 26)
  else none

def digit (value : Nat) : Char :=
  if value < 26 then Char.ofNat (0x61 + value) else Char.ofNat (0x30 + value - 26)

/-- A digit is read back as its value. -/
theorem digitValue?_digit {value : Nat} (h : value < 36) :
    digitValue? (digit value) = some value := by
  have all : ∀ v ∈ List.range 36, digitValue? (digit v) = some v := by decide
  exact all value (List.mem_range.mpr h)

/-- The value below which the digit at this weight is the last one of its number. -/
def threshold (bias weight : Nat) : Nat :=
  if weight ≤ bias then 1 else if bias + 26 ≤ weight then 26 else weight - bias

/-- Thresholds leave room for at least one final and ten other digits. -/
theorem threshold_bounds (bias weight : Nat) :
    1 ≤ threshold bias weight ∧ threshold bias weight ≤ 26 := by
  unfold threshold
  repeat' split
  all_goals omega

/-- The bias for a scaled number. -/
def scaledBias (bias number : Nat) : Nat :=
  if 455 < number then scaledBias (bias + 36) (number / 35) else bias + 36 * number / (number + 38)
termination_by number
decreasing_by exact Nat.div_lt_self (by omega) (by omega)

/-- The bias behind a number: wide numbers are expected after wide ones. The count is that of the
characters so far, the new one included. -/
def nextBias (number count : Nat) (isFirst : Bool) : Nat :=
  let scaled := if isFirst then number / 700 else number / 2
  scaledBias 0 (scaled + scaled / count)

/-- Code point and bias at the start. -/
def startPoint : Nat := 0x80

/-- The bias in front of the first number. -/
def startBias : Nat := 72

/-- Numbers and code points on the way stay within 32 bits. -/
def maxNumber : Nat := 0xFFFFFFFF

/-- Reads a number and adds it to the sum; the digits left are fewer. -/
def readNumber (bias weight factor sum : Nat) : List Char → Option (Nat × List Char)
  | [] => none
  | c :: rest => do
    let value ← digitValue? c
    let sum := sum + value * factor
    let bound := threshold bias weight
    if sum > maxNumber then none
    else if value < bound then some (sum, rest)
    else if factor * (36 - bound) > maxNumber then none
    else readNumber bias (weight + 36) (factor * (36 - bound)) sum rest

/-- A number that is read takes at least one digit. -/
theorem readNumber_shorter {bias weight factor sum total : Nat} {digits rest : List Char}
    (h : readNumber bias weight factor sum digits = some (total, rest)) :
    rest.length < digits.length := by
  induction digits generalizing weight factor sum with
  | nil => simp [readNumber] at h
  | cons c tail ih =>
    simp only [readNumber, Option.bind_eq_bind] at h
    cases hv : digitValue? c with
    | none => simp [hv] at h
    | some value =>
      simp only [hv, Option.bind_some] at h
      split at h
      · simp at h
      · split at h
        · simp only [Option.some.injEq, Prod.mk.injEq] at h
          simp [h.2]
        · split at h
          · simp at h
          · have := ih h
            simp only [List.length_cons]
            omega

/-- Puts in one character for each number. A number counts the places passed over since the last
insertion, with one code point more for each round through the text. -/
def insertAll (point place bias : Nat) (text digits : List Char) : Option (List Char) :=
  if digits.isEmpty then some text else
  match h : readNumber bias 36 1 place digits with
  | none => none
  | some (total, rest) =>
    let count := text.length + 1
    let next := point + total / count
    if next.isValidChar then
      have _shorter := readNumber_shorter h
      insertAll next (total % count + 1) (nextBias (total - place) count (place = 0))
        (text.insertIdx (total % count) (Char.ofNat next)) rest
    else none
termination_by digits.length

/-- The ASCII part in front of the last hyphen, unless nothing stands there, and the digits. -/
def split (cs : List Char) : List Char × List Char :=
  match cs.reverse.span (· != '-') with
  | (digits, _ :: first :: front) => ((first :: front).reverse, digits.reverse)
  | _ => ([], cs)

def decode? (cs : List Char) : Option (List Char) :=
  let (plain, digits) := split cs
  insertAll startPoint 0 startBias plain digits

/-- The digits of a number. -/
def writeNumber (bias weight number : Nat) : List Char :=
  let bound := threshold bias weight
  if number < bound then [digit number]
  else
    let rest := number - bound
    digit (bound + rest % (36 - bound)) :: writeNumber bias (weight + 36) (rest / (36 - bound))
termination_by number
decreasing_by
  have := threshold_bounds bias weight
  exact Nat.lt_of_le_of_lt (Nat.div_le_self _ _) (by omega)

/-- What has been written: the digits, what the next number counts so far, the bias for it, and how
many characters of the text are told. -/
structure Written where
  digits : List Char
  number : Nat
  bias : Nat
  count : Nat
  deriving DecidableEq, Repr

/-- Passes over one character of the text while those with this code point are told. -/
def Written.pass (isFirst : Nat → Bool) (point : Nat) (w : Written) (c : Char) : Written :=
  if c.toNat < point then { w with number := w.number + 1 }
  else if c.toNat = point then
    { digits := w.digits ++ writeNumber w.bias 36 w.number
      number := 0
      bias := nextBias w.number (w.count + 1) (isFirst w.count)
      count := w.count + 1 }
  else w

/-- Tells the characters with the given code points, in ascending order from one on. -/
def tellAll (isFirst : Nat → Bool) (text : List Char) (start : Nat) (w : Written) :
    List Nat → Written
  | [] => w
  | point :: rest =>
    let reached := { w with number := w.number + (point - start) * (w.count + 1) }
    let told := text.foldl (Written.pass isFirst point) reached
    tellAll isFirst text (point + 1) { told with number := told.number + 1 } rest

/-- Puts a number in ascending order unless it is there. -/
def insertPoint (n : Nat) : List Nat → List Nat
  | [] => [n]
  | m :: rest =>
    if n < m then n :: m :: rest else if n = m then m :: rest else m :: insertPoint n rest

def encode (text : List Char) : List Char :=
  let plain := text.filter (·.toNat < startPoint)
  let others := text.filter (startPoint ≤ ·.toNat)
  let points := others.foldr (fun c sorted => insertPoint c.toNat sorted) []
  let told := tellAll (· = plain.length) text startPoint ⟨[], 0, startBias, plain.length⟩ points
  plain ++ (if plain.isEmpty then [] else ['-']) ++ told.digits

end MultiCluster.Url.Punycode
