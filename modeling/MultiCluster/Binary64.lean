import MultiCluster.Text.Numeral

/-! Double precision numbers of IEEE 754, as exact dyadic fractions. Every operation computes the
exact result and rounds it once, to nearest with ties to even. -/
namespace MultiCluster

/-- A finite number is the signed `significand` times two to the `exponent`. It is in canonical
form: the significand is below 2^53, and at least 2^52 unless the exponent is the least one. -/
inductive Binary64 where
  | nan
  | infinite (negative : Bool)
  | finite (negative : Bool) (significand : Nat) (exponent : Int)
  deriving DecidableEq, Repr

namespace Binary64

/-- The least exponent, that of the subnormal numbers. -/
def minExponent : Int := -1074

/-- The greatest exponent. -/
def maxExponent : Int := 971

/-- The bound of significands. -/
def significandLimit : Nat := Nat.pow 2 53

/-- The least significand of a number that is not subnormal. -/
def leastNormal : Nat := Nat.pow 2 52

def zero (negative : Bool) : Binary64 := .finite negative 0 minExponent

/-- The quotient rounded to the nearest whole number, a half to the even neighbour. -/
def roundDiv (num den : Nat) : Nat :=
  let q := num / den
  let r := num % den
  if 2 * r < den then q else if den < 2 * r then q + 1 else q + q % 2

/-- `num / den` in units of two to the `e`, as a fraction. -/
def inUnits (num den : Nat) (e : Int) : Nat × Nat :=
  if e ≥ 0 then (num, den * Nat.pow 2 e.toNat) else (num * Nat.pow 2 (-e).toNat, den)

/-- The exponent under which the fraction has a significand of 53 bits, or the least exponent. -/
def exponentFor (num den : Nat) : Int :=
  let guess : Int := (num.log2 : Int) - den.log2 - 53
  let (n, d) := inUnits num den guess
  max minExponent (if n / d ≥ significandLimit then guess + 1 else guess)

/-- The number nearest to `num / den`, whose sign is given. -/
def ofFraction (negative : Bool) (num den : Nat) : Binary64 :=
  if num = 0 then zero negative else
  let e := exponentFor num den
  let (n, d) := inUnits num den e
  let m := roundDiv n d
  let (m, e) := if m ≥ significandLimit then (m / 2, e + 1) else (m, e)
  if e > maxExponent then .infinite negative else .finite negative m e

/-- The number nearest to a whole number; zero is positive. -/
def ofInt (i : Int) : Binary64 := ofFraction (i < 0) i.natAbs 1

/-- The magnitude of a finite number as a fraction. -/
def fraction (m : Nat) (e : Int) : Nat × Nat :=
  if e ≥ 0 then (m * Nat.pow 2 e.toNat, 1) else (m, Nat.pow 2 (-e).toNat)

def neg : Binary64 → Binary64
  | .nan => .nan
  | .infinite s => .infinite (!s)
  | .finite s m e => .finite (!s) m e

def div : Binary64 → Binary64 → Binary64
  | .nan, _ | _, .nan => .nan
  | .infinite _, .infinite _ => .nan
  | .infinite s, .finite t _ _ => .infinite (s != t)
  | .finite s _ _, .infinite t => zero (s != t)
  | .finite s m e, .finite t n f =>
    if n = 0 then (if m = 0 then .nan else .infinite (s != t)) else
    let a := fraction m e
    let b := fraction n f
    ofFraction (s != t) (a.1 * b.2) (a.2 * b.1)

def mul : Binary64 → Binary64 → Binary64
  | .nan, _ | _, .nan => .nan
  | .infinite s, .infinite t => .infinite (s != t)
  | .infinite s, .finite t m _ | .finite t m _, .infinite s =>
    if m = 0 then .nan else .infinite (s != t)
  | .finite s m e, .finite t n f =>
    let a := fraction m e
    let b := fraction n f
    ofFraction (s != t) (a.1 * b.1) (a.2 * b.2)

/-- The sum; the sum of a number and its negation is positive zero. -/
def add : Binary64 → Binary64 → Binary64
  | .nan, _ | _, .nan => .nan
  | .infinite s, .infinite t => if s = t then .infinite s else .nan
  | .infinite s, .finite .. | .finite .., .infinite s => .infinite s
  | .finite s m e, .finite t n f =>
    let a := fraction m e
    let b := fraction n f
    let signed (neg : Bool) (k : Nat) : Int := if neg then -(k : Int) else k
    let num := signed s (a.1 * b.2) + signed t (b.1 * a.2)
    if num = 0 then zero (s && t) else ofFraction (num < 0) num.natAbs (a.2 * b.2)

/-- The bit pattern: sign, eleven bits of biased exponent, 52 bits of fraction. There is one
pattern for what is not a number. -/
def bits : Binary64 → Nat
  | .nan => 0x7FF8000000000000
  | .infinite s => (s.toNat * 0x800 + 0x7FF) * leastNormal
  | .finite s m e =>
    let biased := if m < leastNormal then 0 else (e - minExponent + 1).toNat
    (s.toNat * 0x800 + biased) * leastNormal + m % leastNormal

def isZero : Binary64 → Bool
  | .finite _ m _ => m == 0
  | _ => false

/-- Whether the number is neither infinite nor undefined. -/
def isFinite : Binary64 → Bool
  | .finite .. => true
  | _ => false

end Binary64
end MultiCluster
