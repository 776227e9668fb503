import MultiCluster.Proofs.Flow.Alone

/-! What a program may come to ask, by itself and in the jobs of its pools. -/
namespace MultiCluster

variable {α β : Type} {P : Call → Prop}

/-- A job that was answered may still ask no more than before. -/
theorem Job.Asks.step {j : Job β} (h : j.Asks P) (t : Turn) (w : Surroundings) :
    (j.step t.serve w).1.Asks P ∧
      ((j.step t.serve w).2 = w ∨ ∃ c, P c ∧ (j.step t.serve w).2 = (t.serve c w).2) := by
  cases j with
  | done b => exact ⟨trivial, .inl rfl⟩
  | ask c next => exact ⟨h.2 _, .inr ⟨c, h.1, rfl⟩⟩

namespace Flow

/-- All questions that a program or one of its jobs may come to ask have a property. -/
def Asks (P : Call → Prop) : Flow β α → Prop
  | done _ => True
  | ask c next => P c ∧ ∀ r, (next r).Asks P
  | pool _ _ jobs next => (∀ j ∈ jobs, j.Asks P) ∧ ∀ bs, (next bs).Asks P

variable {f : Flow β α}

theorem Asks.settle (h : f.Asks P) : f.settle.Asks P := by
  induction f with
  | done a => exact h
  | ask c next => exact h
  | pool window limit jobs next ih =>
    unfold Flow.settle
    split
    · exact ih _ (h.2 _)
    · exact h

/-- A move of the surroundings answers one of these questions, or nothing waits for an answer. -/
theorem Asks.turn (h : f.Asks P) (t : Turn) (w : Surroundings) :
    (f.turn t w).1.Asks P ∧
      ((f.turn t w).2 = w ∨ ∃ c, P c ∧ (f.turn t w).2 = (t.serve c w).2) := by
  rw [Flow.turn]
  cases hq : f.waiting[t.pick % f.waiting.length]? with
  | none => exact ⟨h, .inl rfl⟩
  | some q =>
    cases f with
    | done a => exact ⟨h, .inl rfl⟩
    | ask c next => exact ⟨(h.2 _).settle, .inr ⟨c, h.1, rfl⟩⟩
    | pool window limit jobs next =>
      simp only [Flow.step]
      cases hj : jobs[q.1]? with
      | none => exact ⟨h, .inl rfl⟩
      | some j =>
        have ha := (h.1 j (List.mem_of_getElem? hj)).step t w
        refine ⟨Asks.settle ⟨fun k hk => ?_, h.2⟩, ha.2⟩
        obtain hk | rfl := List.mem_or_eq_of_mem_set hk
        · exact h.1 k hk
        · exact ha.1

end Flow
end MultiCluster
