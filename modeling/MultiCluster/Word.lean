/-! The ranges of machine words: which whole numbers fit a width in bits, with and without a
sign. -/
namespace MultiCluster.Word

/-- Two to the `width`; unsigned words are below it. -/
def limit (width : Nat) : Nat := Nat.pow 2 width

def least (width : Nat) : Int := -(limit (width - 1) : Int)

def greatest (width : Nat) : Int := (limit (width - 1) : Int) - 1

/-- The number, if it is an unsigned word. -/
def unsigned? (width n : Nat) : Option Nat := if n < limit width then some n else none

/-- The number, if it is a signed word. -/
def signed? (width : Nat) (i : Int) : Option Int :=
  if least width ≤ i ∧ i ≤ greatest width then some i else none

end MultiCluster.Word
