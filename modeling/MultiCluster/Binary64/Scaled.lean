import MultiCluster.Binary64

/-! Whole numbers scaled by powers of ten in double precision. The number, the power and the result
are each rounded, so the last digit may differ from that of the nearest double. -/
namespace MultiCluster.Binary64

/-- The greatest power of ten in the range of doubles. -/
def maxPower : Nat := 308

/-- Ten to the `k`, rounded. -/
def powerOfTen (k : Nat) : Binary64 := ofFraction false (Nat.pow 10 k) 1

/-- A number divided by ten to the `k`, by the greatest power first while it takes several. -/
def shrink : Nat → Nat → Binary64 → Binary64
  | 0, _, _ => zero false
  | fuel + 1, k, x =>
    if k ≤ maxPower then x.div (powerOfTen k)
    else if x.isZero then x
    else shrink fuel (k - maxPower) (x.div (powerOfTen maxPower))

/-- A whole number times ten to the `k`; infinite past the range. Three divisions by the greatest
power leave nothing of a number of 64 bits. -/
def ofScaled (n : Nat) (k : Int) : Binary64 :=
  let x := ofFraction false n 1
  if k < 0 then shrink 4 k.natAbs x
  else if k ≤ maxPower then x.mul (powerOfTen k.toNat)
  else if x.isZero then x
  else .infinite false

end MultiCluster.Binary64
