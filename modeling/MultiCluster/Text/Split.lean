/-! Splitting texts at a separator. -/
namespace MultiCluster.Text

def splitAll (separator : Char) : List Char → List (List Char)
  | [] => [[]]
  | c :: rest =>
    if c = separator then [] :: splitAll separator rest else
    match splitAll separator rest with
    | part :: others => (c :: part) :: others
    | [] => [[c]]

/-- The parts in front of and behind the first occurrence of a separator; without one, all is in
front. -/
def splitFirst (separator : Char) (cs : List Char) : List Char × List Char :=
  (cs.takeWhile (· != separator), (cs.dropWhile (· != separator)).drop 1)

/-- There is at least one part. -/
theorem splitAll_ne_nil (separator : Char) (cs : List Char) : splitAll separator cs ≠ [] := by
  cases cs with
  | nil => simp [splitAll]
  | cons c rest =>
    unfold splitAll
    split
    · simp
    · split <;> simp

end MultiCluster.Text
