/-! Sets of code points as lists of closed ranges in ascending order. -/
namespace MultiCluster.Text

/-- Whether a number lies in one of the ranges; the search ends at the first that starts past it. -/
def inRanges (n : Nat) : List (Nat × Nat) → Bool
  | [] => false
  | r :: rest => if n < r.1 then false else n ≤ r.2 || inRanges n rest

/-- What is found lies in a range of the list. -/
theorem exists_of_inRanges {n : Nat} {ranges : List (Nat × Nat)} (h : inRanges n ranges = true) :
    ∃ r ∈ ranges, r.1 ≤ n ∧ n ≤ r.2 := by
  induction ranges with
  | nil => simp [inRanges] at h
  | cons r rest ih =>
    unfold inRanges at h
    split at h
    · simp at h
    · rename_i low
      simp only [Bool.or_eq_true, decide_eq_true_eq] at h
      rcases h with h | h
      · exact ⟨r, by simp, by omega, h⟩
      · obtain ⟨s, hs, bounds⟩ := ih h
        exact ⟨s, by simp [hs], bounds⟩

end MultiCluster.Text
