import MultiCluster.Text.Numeral

/-! Resource quantities such as 1500m, 16Gi or 1e3: a decimal number times a power of ten or of
two. Conversion to whole units of a decimal scale is exact and rounds toward positive infinity. -/
namespace MultiCluster

open Text

def maxInt64 : Int := Word.greatest 64

def minInt64 : Int := Word.least 64

/-- A quantity stands for the signed `mantissa`, times ten to the `decimal`, times two to the
`binary`. -/
structure Quantity where
  negative : Bool
  mantissa : Nat
  decimal : Int
  binary : Nat
  deriving DecidableEq, Repr

namespace Quantity

/-- Decimal scale of CPU units, a thousandth of a core. -/
def milli : Int := -3

/-- Decimal scale of memory units, a million bytes. -/
def mega : Int := 6

/-- Mantissas and the numbers computed from them stay below this bound. -/
def wordLimit : Nat := Word.limit 128

/-- Exponents of ten are 32-bit numbers, and so are the places that a point moves them by. -/
def isExponent (e : Int) : Bool := Word.least 32 ≤ e && e ≤ Word.greatest 32

/-- The powers of ten and of two that a suffix multiplies by. -/
def suffix? : List Char → Option (Int × Nat)
  | [] => some (0, 0)
  | ['n'] => some (-9, 0)
  | ['u'] => some (-6, 0)
  | ['m'] => some (-3, 0)
  | ['k'] => some (3, 0)
  | ['M'] => some (6, 0)
  | ['G'] => some (9, 0)
  | ['T'] => some (12, 0)
  | ['P'] => some (15, 0)
  | ['E'] => some (18, 0)
  | ['K', 'i'] => some (0, 10)
  | ['M', 'i'] => some (0, 20)
  | ['G', 'i'] => some (0, 30)
  | ['T', 'i'] => some (0, 40)
  | ['P', 'i'] => some (0, 50)
  | ['E', 'i'] => some (0, 60)
  | 'e' :: digits | 'E' :: digits => (readSigned 32 digits).map (·, 0)
  | _ => none

/-- The sign in front, if any, and the rest. -/
def splitSign : List Char → Bool × List Char
  | '-' :: rest => (true, rest)
  | '+' :: rest => (false, rest)
  | cs => (false, cs)

/-- Characters of the number in front of the suffix. -/
def isNumberChar (c : Char) : Bool := c.isDigit || c == '.'

/-- The digits before the first point and those after it. -/
def splitPoint (number : List Char) : List Char × List Char :=
  (number.takeWhile (· != '.'), (number.dropWhile (· != '.')).drop 1)

/-- Reads a quantity; white space around it is ignored. -/
def ofChars? (text : List Char) : Option Quantity := do
  let (negative, rest) := splitSign (trimChars text)
  let (whole, fraction) := splitPoint (rest.takeWhile isNumberChar)
  if whole.isEmpty && fraction.isEmpty then none
  if fraction.contains '.' then none
  let mantissa := digitsValue (whole ++ fraction)
  if mantissa ≥ wordLimit then none
  let (suffixDecimal, binary) ← suffix? (rest.dropWhile isNumberChar)
  if !isExponent fraction.length then none
  let decimal := suffixDecimal - fraction.length
  if !isExponent decimal then none
  return { negative, mantissa, decimal, binary }

/-- Reads a quantity; white space around it is ignored. -/
def parse? (s : String) : Option Quantity := ofChars? s.toList

/-- What a quantity of too great a magnitude converts to. -/
def saturated (negative : Bool) : Int := if negative then minInt64 else maxInt64

/-- Powers of ten below the word limit; the greatest is ten to the 38. -/
def powerOfTen? (e : Nat) : Option Nat := if e ≤ 38 then some (Nat.pow 10 e) else none

/-- `n` times ten to the `e`, unless that leaves the word. -/
def scaleUp? (n e : Nat) : Option Nat :=
  if n = 0 then some 0 else do
    let product := n * (← powerOfTen? e)
    if product < wordLimit then some product else none

/-- `n` divided by ten to the `e`, rounded toward positive infinity for a number of that sign. -/
def scaleDown (negative : Bool) (n e : Nat) : Nat :=
  match powerOfTen? e with
  | some divisor => if negative then n / divisor else (n + divisor - 1) / divisor
  | none => if n = 0 || negative then 0 else 1

/-- Brings a magnitude into 64 bits and gives it its sign. -/
def signedUnits (negative : Bool) (magnitude : Nat) : Int :=
  let value : Int := min magnitude maxInt64
  if negative then -value else value

/-- Whole units of ten to the `scale` that the quantity holds, rounded up. There is no answer when
the difference of the exponents leaves 32 bits; values outside 64 bits saturate. -/
def units? (q : Quantity) (scale : Int) : Option Int :=
  let numerator := q.mantissa * Nat.pow 2 q.binary
  if numerator ≥ wordLimit then some (saturated q.negative) else
  let exponent := q.decimal - scale
  if !isExponent exponent then none else
  if exponent ≥ 0 then
    match scaleUp? numerator exponent.toNat with
    | some magnitude => some (signedUnits q.negative magnitude)
    | none => some (saturated q.negative)
  else some (signedUnits q.negative (scaleDown q.negative numerator (-exponent).toNat))

end Quantity

/-- Whole units of ten to the `scale` in a written quantity. -/
def unitsOf? (s : String) (scale : Int) : Option Int :=
  (Quantity.parse? s).bind (·.units? scale)

/-- Thousandths of a core in a written quantity. -/
def millicores? (s : String) : Option Int := unitsOf? s Quantity.milli

/-- Megabytes in a written quantity. -/
def megabytes? (s : String) : Option Int := unitsOf? s Quantity.mega

end MultiCluster
