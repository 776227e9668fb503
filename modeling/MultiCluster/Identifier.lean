/-! Ids given to newly registered clusters. -/
namespace MultiCluster.Identifier

def beginning : String := "cluster-"

def alphabet : List Char := "abcdefghijklmnopqrstuvwxyz0123456789".toList

/-- How many of them follow. -/
def suffixLength : Nat := 6

/-- So many characters that write a number to the base of the alphabet; its low digits if it needs
more of them. -/
def digits : Nat → Nat → List Char
  | 0, _ => []
  | count + 1, n =>
    digits count (n / alphabet.length) ++ [alphabet.getD (n % alphabet.length) 'a']

def nth (n : Nat) : String := beginning ++ String.ofList (digits suffixLength n)

/-- Whether a text has the form of an id. -/
def isWellFormed (s : String) : Bool :=
  let suffix := s.toList.drop beginning.length
  beginning.toList.isPrefixOf s.toList && suffix.length == suffixLength
    && suffix.all alphabet.contains

/-- So many digits are written as asked for. -/
@[simp] theorem length_digits (count n : Nat) : (digits count n).length = count := by
  induction count generalizing n with
  | zero => rfl
  | succ count ih => simp [digits, ih]

/-- Digits are characters of the alphabet. -/
theorem mem_alphabet_of_mem_digits {count n : Nat} {c : Char} (h : c ∈ digits count n) :
    c ∈ alphabet := by
  induction count generalizing n with
  | zero => simp [digits] at h
  | succ count ih =>
    simp only [digits, List.mem_append, List.mem_singleton] at h
    rcases h with h | rfl
    · exact ih h
    · have bound : n % alphabet.length < alphabet.length := Nat.mod_lt _ (by decide)
      simp [List.getD_eq_getElem?_getD, List.getElem?_eq_getElem bound]

end MultiCluster.Identifier
