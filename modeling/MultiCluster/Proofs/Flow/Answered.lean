import MultiCluster.Proofs.Flow.Asks

/-! Surroundings that answer a question the same way whenever it is asked: a pool then yields what
its jobs come to alone, in whatever order they are answered. -/
namespace MultiCluster

variable {α β : Type}

/-- Gives the one answer that there is to a question, and keeps what was said. -/
def Call.answered (answers : (c : Call) → c.Reply) (c : Call) : StateM (List Exchange) c.Reply :=
  fun said => (answers c, said ++ [⟨c, answers c⟩])

namespace Job

variable {answers : (c : Call) → c.Reply}

theorem run_answered_done (a : α) (said : List Exchange) :
    (done a).run (Call.answered answers) said = (a, said) := rfl

theorem run_answered_ask (c : Call) (next : c.Reply → Job α) (said : List Exchange) :
    (ask c next).run (Call.answered answers) said =
      (next (answers c)).run (Call.answered answers) (said ++ [⟨c, answers c⟩]) := rfl

theorem run_answered_bind (j : Job α) (f : α → Job β) (said : List Exchange) :
    (j.bind f).run (Call.answered answers) said =
      (f (j.run (Call.answered answers) said).1).run (Call.answered answers)
        (j.run (Call.answered answers) said).2 := by
  induction j generalizing said with
  | done a => rfl
  | ask c next ih => rw [ask_bind, run_answered_ask, run_answered_ask, ih]

/-- What was said before does not matter. -/
theorem run_answered_eq (j : Job α) (said : List Exchange) :
    j.run (Call.answered answers) said = ((j.run (Call.answered answers) []).1,
      said ++ (j.run (Call.answered answers) []).2) := by
  induction j generalizing said with
  | done a => simp [run_answered_done]
  | ask c next ih =>
    rw [run_answered_ask, run_answered_ask, ih, ih (answers c) ([] ++ _)]
    simp

end Job

/-- Nothing else is said than what may be asked. -/
theorem Job.Asks.answered {P : Call → Prop} {answers : (c : Call) → c.Reply} {j : Job α}
    (h : j.Asks P) : ∀ e ∈ (j.run (Call.answered answers) []).2, P e.call := by
  induction j with
  | done a => simp [run_answered_done]
  | ask c next ih =>
    rw [run_answered_ask, run_answered_eq, List.nil_append, List.singleton_append]
    exact List.forall_mem_cons.2 ⟨h.1, ih _ (h.2 _)⟩

namespace Action

variable (answers : (c : Call) → c.Reply)

/-- What an action comes to, when every question has one answer. -/
def result (a : Action α) : Except Error α := (a.run.run (Call.answered answers) []).1

/-- What is said on the way. -/
def said (a : Action α) : List Exchange := (a.run.run (Call.answered answers) []).2

private theorem run_bind (a : Action α) (f : α → Action β) :
    (a >>= f).run = a.run.bind fun
      | .ok x => (f x).run
      | .error e => .done (.error e) := by
  apply congrArg (Job.bind a.run)
  funext r
  cases r <;> rfl

theorem result_bind (a : Action α) (f : α → Action β) :
    (a >>= f).result answers = a.result answers >>= fun x => (f x).result answers := by
  rw [result, run_bind, Job.run_answered_bind, Job.run_answered_eq]
  unfold result
  cases (a.run.run (Call.answered answers) []).1 <;> rfl

theorem said_bind (a : Action α) (f : α → Action β) :
    (a >>= f).said answers = a.said answers ++ match a.result answers with
      | .ok x => (f x).said answers
      | .error _ => [] := by
  rw [said, run_bind, Job.run_answered_bind, Job.run_answered_eq]
  unfold result said
  cases (a.run.run (Call.answered answers) []).1 <;> rfl

theorem result_lift (j : Job α) :
    result answers (ExceptT.lift j) = .ok (j.run (Call.answered answers) []).1 := by
  change ((j.bind fun x => .done (Except.ok x)).run (Call.answered answers) []).1 = _
  rw [Job.run_answered_bind, Job.run_answered_done]

theorem result_ofExcept (r : Except Error α) : (ofExcept r).result answers = r := rfl

end Action

/-- Whether a move gives the one answer to each of some questions and leaves the store alone. -/
def Turn.Repeats (P : Call → Prop) (answers : (c : Call) → c.Reply) (t : Turn) : Prop :=
  ∀ c, P c → ∀ w, t.serve c w = (answers c, ⟨w.store, w.past ++ [⟨c, answers c⟩]⟩)

namespace Flow

variable {P : Call → Prop} {answers : (c : Call) → c.Reply}

private theorem perm_answered {before others : List (Job β)} {c : Call} {next : c.Reply → Job β}
    {said : List Exchange}
    (h : said.Perm ((before ++ next (answers c) :: others).flatMap fun j =>
      (j.run (Call.answered answers) []).2)) :
    (⟨c, answers c⟩ :: said).Perm ((before ++ .ask c next :: others).flatMap fun j =>
      (j.run (Call.answered answers) []).2) := by
  have ha : ((Job.ask c next).run (Call.answered answers) []).2 =
      ⟨c, answers c⟩ :: ((next (answers c)).run (Call.answered answers) []).2 := by
    rw [Job.run_answered_ask, Job.run_answered_eq]
    rfl
  simp only [List.flatMap_append, List.flatMap_cons, ha, List.cons_append] at h ⊢
  exact (h.cons _).trans List.perm_middle.symm

/-- Under any schedule a pool comes to the values that its jobs come to alone, in their order, and
what is said is what they say alone, in some order. -/
theorem pool_answered {limit : Nat} (hl : 0 < limit) (window : Window) (js : List (Job β))
    (next : List β → Flow β α) (schedule : Nat → Turn) (w : Surroundings)
    (hj : ∀ j ∈ js, j.Asks P) (ht : ∀ k, (schedule k).Repeats P answers) :
    ∃ n said, (pool window limit js next).settle.turns schedule n w =
        ((next (js.map fun j => (j.run (Call.answered answers) []).1)).settle,
          ⟨w.store, w.past ++ said⟩) ∧
      said.Perm (js.flatMap fun j => (j.run (Call.answered answers) []).2) := by
  induction js using wellFounded_answered.induction generalizing schedule w with
  | _ js ih =>
    obtain ⟨bs, rfl⟩ | ⟨bs, c, ask, behind, rfl⟩ := done_or_asks js
    · refine ⟨0, [], ?_, ?_⟩
      · rw [turns_zero, settle_pool_done]
        simp [Function.comp_def, Job.run_answered_done]
      · simp [List.flatMap_map, Job.run_answered_done]
    · obtain ⟨before, d, asked, others, he, hturn⟩ :=
        turn_pool hl window bs c ask behind next (schedule 0) w
      rw [he] at ih hj
      obtain ⟨hd, hasked⟩ := hj (.ask d asked) (by simp)
      have hserve := ht 0 d hd w
      have hjs : ∀ j ∈ before ++ asked (answers d) :: others, j.Asks P := by
        simp only [List.mem_append, List.mem_cons] at hj ⊢
        rintro j (h | rfl | h)
        · exact hj j (.inl h)
        · exact hasked _
        · exact hj j (.inr (.inr h))
      have hv : ((Job.ask d asked).run (Call.answered answers) []).1 =
          ((asked (answers d)).run (Call.answered answers) []).1 := by
        rw [Job.run_answered_ask, Job.run_answered_eq]
      obtain ⟨n, said, hn, hp⟩ := ih _ (.intro before d asked (answers d) others)
        (fun k => schedule (k + 1)) ⟨w.store, w.past ++ [⟨d, answers d⟩]⟩ hjs fun k => ht (k + 1)
      refine ⟨n + 1, ⟨d, answers d⟩ :: said, ?_, ?_⟩
      · rw [settle_pool_asks, turns_succ, hturn, hserve, hn, he]
        simp [hv]
      · rw [he]
        exact perm_answered hp

end Flow
end MultiCluster
