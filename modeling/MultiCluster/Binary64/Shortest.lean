import MultiCluster.Binary64

/-! Decimal text of double precision numbers: the fewest digits that read back as the same number,
written without an exponent. -/
namespace MultiCluster.Binary64

open Text

/-- The fractions that round to a number: `low` to `high` over `den`, ends included iff the
significand is even. -/
structure Interval where
  low : Nat
  high : Nat
  den : Nat
  closed : Bool

/-- Halfway to the neighbours, in quarters of the last place. Below a power of two the neighbour is
half as far. -/
def interval (m : Nat) (e : Int) : Interval :=
  let below := if m = leastNormal ∧ e > minExponent then 1 else 2
  let (unit, den) := fraction 1 e
  { low := (4 * m - below) * unit, high := (4 * m + 2) * unit, den := 4 * den, closed := m % 2 = 0 }

/-- Whether the fraction rounds to the number of the interval. -/
def Interval.contains (i : Interval) (num den : Nat) : Bool :=
  if i.closed then i.low * den ≤ num * i.den && num * i.den ≤ i.high * den
  else i.low * den < num * i.den && num * i.den < i.high * den

/-- `n` times ten to the `k` as a fraction. -/
def decimalFraction (n : Nat) (k : Int) : Nat × Nat :=
  if k ≥ 0 then (n * Nat.pow 10 k.toNat, 1) else (n, Nat.pow 10 (-k).toNat)

/-- The two multiples of ten to the `k` next to the number, the nearer first. -/
def neighbours (num den : Nat) (k : Int) : List Nat :=
  let (p, q) := decimalFraction 1 k
  let n := num * q / (den * p)
  let r := num * q % (den * p)
  if 2 * r > den * p then [n + 1, n] else [n, n + 1]

/-- The greatest exponent of ten whose power is at most the fraction. -/
def decimalExponent (num den : Nat) : Int :=
  let guess : Int := ((num.log2 : Int) - den.log2 - 1) * 30103 / 100000
  let reaches (k : Int) : Bool :=
    let (p, q) := decimalFraction 1 k
    p * den ≤ num * q
  if reaches (guess + 2) then guess + 2 else if reaches (guess + 1) then guess + 1 else
  if reaches guess then guess else guess - 1

/-- The fewest digits, as a whole number with an exponent of ten, that read back as the number. -/
def shortest (m : Nat) (e : Int) : Nat × Int :=
  let i := interval m e
  let (num, den) := fraction m e
  let top := decimalExponent num den
  let hit (count : Nat) : Option (Nat × Int) :=
    let k := top + 1 - count
    ((neighbours num den k).find? fun n =>
      let (a, b) := decimalFraction n k
      i.contains a b).map fun n => if n = Nat.pow 10 count then (1, k + count) else (n, k)
  ((List.range' 1 17).findSome? hit).getD (m, e)

/-- A whole number with an exponent of ten in positional notation. -/
def positional (n : Nat) (k : Int) : List Char :=
  let digits := (toString n).toList
  if k ≥ 0 then digits ++ List.replicate k.toNat '0' else
  let places := (-k).toNat
  let padded := List.replicate (places + 1 - digits.length) '0' ++ digits
  padded.take (padded.length - places) ++ '.' :: padded.drop (padded.length - places)

/-- A whole number with an exponent of ten as one digit, a point and the others, and an exponent
with its sign. -/
def scientific (n : Nat) (k : Int) : List Char :=
  let digits := (toString n).toList
  let exponent := k + digits.length - 1
  digits.take 1 ++ (if digits.length > 1 then '.' :: digits.drop 1 else [])
    ++ 'e' :: (if exponent < 0 then '-' else '+') :: (toString exponent.natAbs).toList

/-- The number without an exponent; a whole number has no point. -/
def text : Binary64 → String
  | .nan => "NaN"
  | .infinite s => if s then "-inf" else "inf"
  | .finite s m e =>
    let (n, k) := if m = 0 then (0, 0) else shortest m e
    String.ofList ((if s then ['-'] else []) ++ positional n k)

/-- The number without an exponent; a whole number ends in a point and a zero. -/
def pointedText (x : Binary64) : String :=
  let t := x.text
  if x.isFinite && !t.toList.contains '.' then t ++ ".0" else t

/-- The number with an exponent where it has more than sixteen places in front of the point or more
than four zeros behind it. -/
def compactText (x : Binary64) : String :=
  match x with
  | .finite s m e =>
    let (n, k) := if m = 0 then (0, 0) else shortest m e
    let point := (toString n).length + k
    if m = 0 || (-5 < point && point ≤ 16) then x.pointedText
    else String.ofList ((if s then ['-'] else []) ++ scientific n k)
  | _ => x.text

end MultiCluster.Binary64
