import MultiCluster.Binary64.Shortest

/-! Lengths of time in seconds and nanoseconds. -/
namespace MultiCluster

/-- A length of time; the nanoseconds are below 10^9. -/
structure Span where
  seconds : Nat
  nanos : Nat
  deriving DecidableEq, Repr

namespace Span

def nanosPerSecond : Nat := 1000000000

def ofSeconds (s : Nat) : Span := ⟨s, 0⟩

def isZero (d : Span) : Bool := d.seconds == 0 && d.nanos == 0

def totalNanos (d : Span) : Nat := d.seconds * nanosPerSecond + d.nanos

/-- Seconds as a double: both parts are rounded before they are added. -/
def toSeconds (d : Span) : Binary64 :=
  (Binary64.ofInt d.seconds).add
    ((Binary64.ofInt d.nanos).div (Binary64.ofInt nanosPerSecond))

/-- A whole part and the digits of a fraction of `places` places, trailing zeros dropped. -/
def withFraction (whole fraction places : Nat) : String :=
  let digits := (toString fraction).toList
  let padded := List.replicate (places - digits.length) '0' ++ digits
  let kept := Text.dropEnd (· == '0') padded
  toString whole ++ (if kept.isEmpty then "" else "." ++ String.ofList kept)

/-- The length in the largest unit of which there is at least one. -/
def text (d : Span) : String :=
  if d.seconds > 0 then withFraction d.seconds d.nanos 9 ++ "s"
  else if d.nanos ≥ 1000000 then withFraction (d.nanos / 1000000) (d.nanos % 1000000) 6 ++ "ms"
  else if d.nanos ≥ 1000 then withFraction (d.nanos / 1000) (d.nanos % 1000) 3 ++ "µs"
  else toString d.nanos ++ "ns"

end Span
end MultiCluster
