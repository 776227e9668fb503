import MultiCluster.Binary64

/-! Reading double precision numbers from decimal text, correctly rounded. -/
namespace MultiCluster.Binary64

open Text

/-- The parts of a decimal number as written. -/
structure Written where
  whole : List Char
  fraction : List Char
  exponent : Int

/-- An exponent: a letter e, an optional sign, one or more digits. -/
def readExponent : List Char → Option Int
  | [] => some 0
  | c :: rest =>
    if c != 'e' && c != 'E' then none else
    match rest with
    | '-' :: digits => (readDigits digits).map fun n => -(n : Int)
    | '+' :: digits => (readDigits digits).map fun n => (n : Int)
    | digits => (readDigits digits).map fun n => (n : Int)

/-- Digits with at most one point, at least one digit, then an optional exponent. -/
def readWritten (cs : List Char) : Option Written := do
  let whole := cs.takeWhile Char.isDigit
  let rest := cs.dropWhile Char.isDigit
  let (fraction, rest) := match rest with
    | '.' :: tail => (tail.takeWhile Char.isDigit, tail.dropWhile Char.isDigit)
    | _ => ([], rest)
  if whole.isEmpty && fraction.isEmpty then none
  return { whole, fraction, exponent := ← readExponent rest }

/-- The number nearest to the digits `n` times ten to the `k`. Exponents far outside the range are
answered without computing the power. -/
def ofDecimal (negative : Bool) (n : Nat) (k : Int) : Binary64 :=
  let top : Int := (toString n).length + k
  if n = 0 || top < -400 then zero negative
  else if top > 400 then .infinite negative
  else if k ≥ 0 then ofFraction negative (n * Nat.pow 10 k.toNat) 1
  else ofFraction negative n (Nat.pow 10 (-k).toNat)

/-- The number that a decimal writes. -/
def Written.value (w : Written) (negative : Bool) : Binary64 :=
  ofDecimal negative (digitsValue (w.whole ++ w.fraction)) (w.exponent - w.fraction.length)

/-- A decimal, an infinity (`inf`, `infinity`) or `nan` in any case, with an optional sign. -/
def ofChars? (cs : List Char) : Option Binary64 :=
  let (negative, rest) := match cs with
    | '-' :: rest => (true, rest)
    | '+' :: rest => (false, rest)
    | _ => (false, cs)
  let lower := String.ofList (rest.map Char.toLower)
  if lower = "inf" || lower = "infinity" then some (.infinite negative)
  else if lower = "nan" then some .nan
  else (readWritten rest).map (·.value negative)

/-- A decimal, an infinity (`inf`, `infinity`) or `nan` in any case, with an optional sign. -/
def parse? (s : String) : Option Binary64 := ofChars? s.toList

end MultiCluster.Binary64
