/-! Whether passes are in progress, and what is told about it. -/
namespace MultiCluster.Sweep

/-- What happens to a pass: it begins, it comes to its end with or without success, or it is dropped
on the way. -/
inductive PassEvent where
  | start
  | finish
  | drop
  deriving DecidableEq, Repr

/-- How many passes are in progress, and the mark that tells whether any is. -/
structure Activity where
  isMarked : Bool
  passes : Nat
  deriving DecidableEq, Repr

namespace Activity

/-- No pass has begun. -/
def idle : Activity := ⟨false, 0⟩

/-- The activity after an event. Every pass sets the mark when it begins and clears it when it ends;
one that is dropped leaves it alone. -/
def after (a : Activity) : PassEvent → Activity
  | .start => ⟨true, a.passes + 1⟩
  | .finish => ⟨false, a.passes - 1⟩
  | .drop => ⟨a.isMarked, a.passes - 1⟩

def afterAll (a : Activity) (events : List PassEvent) : Activity := events.foldl after a

def text (a : Activity) : String := if a.isMarked then "Running" else "Idle"

end Activity
end MultiCluster.Sweep
