import MultiCluster.Proofs.Surroundings
import Mathlib.Logic.Relation

/-! Pools under any schedule. Every answer makes some job shorter and no pool with room for a job is
ever stuck, so each pool comes to its end, whatever is answered and in whatever order. -/
namespace MultiCluster.Flow

variable {α β : Type}

/-- Surroundings under which the jobs of a pool come to their values, one answer after the other. -/
inductive Gathers : List (Job β) → Surroundings → List β → Surroundings → Prop where
  | done (bs : List β) (w : Surroundings) : Gathers (bs.map .done) w bs w
  | turn {c : Call} {next : c.Reply → Job β} {before behind : List (Job β)} {w v : Surroundings}
      {bs : List β} (t : Turn)
      (rest : Gathers (before ++ next (t.serve c w).1 :: behind) (t.serve c w).2 bs v) :
      Gathers (before ++ .ask c next :: behind) w bs v

/-- The jobs of a pool after one of them got an answer, next to the jobs before it. -/
inductive Answered : List (Job β) → List (Job β) → Prop where
  | intro (before : List (Job β)) (c : Call) (next : c.Reply → Job β) (r : c.Reply)
      (behind : List (Job β)) :
      Answered (before ++ next r :: behind) (before ++ .ask c next :: behind)

private theorem answered_cons {j : Job β} {js ks : List (Job β)} (h : Answered ks (j :: js)) :
    (∃ c next r, j = .ask c next ∧ ks = next r :: js) ∨ ∃ ls, ks = j :: ls ∧ Answered ls js := by
  generalize hj : j :: js = all at h
  obtain ⟨before, c, next, r, behind⟩ := h
  cases before with
  | nil =>
    obtain ⟨rfl, rfl⟩ := List.cons.inj hj
    exact .inl ⟨c, next, r, rfl, rfl⟩
  | cons b before =>
    obtain ⟨rfl, rfl⟩ := List.cons.inj hj
    exact .inr ⟨_, rfl, .intro before c next r behind⟩

-- Induction on the job, and for each job on how the others get shorter.
private theorem acc_cons (j : Job β) {js : List (Job β)} (h : Acc Answered js) :
    Acc Answered (j :: js) := by
  induction j generalizing js with
  | done b =>
    induction h with
    | intro js _ ih =>
      refine ⟨_, fun ks hk => ?_⟩
      obtain ⟨c, next, r, hj, -⟩ | ⟨ls, rfl, hl⟩ := answered_cons hk
      · cases hj
      · exact ih ls hl
  | ask c next ihj =>
    induction h with
    | intro js hjs ih =>
      refine ⟨_, fun ks hk => ?_⟩
      obtain ⟨c', next', r, hj, rfl⟩ | ⟨ls, rfl, hl⟩ := answered_cons hk
      · obtain ⟨rfl, hn⟩ := Job.ask.inj hj
        obtain rfl := eq_of_heq hn
        exact ihj r ⟨_, hjs⟩
      · exact ih ls hl

/-- No pool is answered for ever. -/
theorem wellFounded_answered : WellFounded (Answered (β := β)) := by
  refine ⟨fun js => ?_⟩
  induction js with
  | nil =>
    refine ⟨_, fun ks hk => ?_⟩
    generalize hj : ([] : List (Job β)) = all at hk
    obtain ⟨before, c, next, r, behind⟩ := hk
    exact absurd hj.symm (List.append_ne_nil_of_right_ne_nil _ (List.cons_ne_nil _ _))
  | cons j js ih => exact acc_cons j ih

/-- Either all jobs are done, or one of them asks. -/
theorem done_or_asks (js : List (Job β)) :
    (∃ bs : List β, js = bs.map .done) ∨
      ∃ (bs : List β) (c : Call) (next : c.Reply → Job β) (behind : List (Job β)),
        js = bs.map .done ++ .ask c next :: behind := by
  induction js with
  | nil => exact .inl ⟨[], rfl⟩
  | cons j js ih =>
    cases j with
    | ask c next => exact .inr ⟨[], c, next, js, rfl⟩
    | done b =>
      obtain ⟨bs, rfl⟩ | ⟨bs, c, next, behind, rfl⟩ := ih
      · exact .inl ⟨b :: bs, rfl⟩
      · exact .inr ⟨b :: bs, c, next, behind, rfl⟩

theorem results?_done (bs : List β) : results? (bs.map .done) = some bs := by
  induction bs with
  | nil => rfl
  | cons b bs ih =>
    rw [results?] at ih
    simp [results?, List.mapM_cons, Job.value?, ih]

theorem results?_asks (before : List (Job β)) (c : Call) (next : c.Reply → Job β)
    (behind : List (Job β)) : results? (before ++ .ask c next :: behind) = none := by
  induction before with
  | nil => rfl
  | cons j before ih =>
    rw [results?] at ih
    cases j <;> simp [results?, List.mapM_cons, Job.value?, ih]

theorem settle_pool_done (window : Window) (limit : Nat) (bs : List β) (next : List β → Flow β α) :
    (pool window limit (bs.map .done) next).settle = (next bs).settle := by
  rw [settle, results?_done]

theorem settle_pool_asks (window : Window) (limit : Nat) (before : List (Job β)) (c : Call)
    (ask : c.Reply → Job β) (behind : List (Job β)) (next : List β → Flow β α) :
    (pool window limit (before ++ .ask c ask :: behind) next).settle =
      pool window limit (before ++ .ask c ask :: behind) next := by
  rw [settle, results?_asks]

private theorem asks_of_mem_runnable {window : Window} {limit i : Nat} {js : List (Job β)}
    (h : i ∈ runnable window limit js) : ∃ c ask, js[i]? = some (.ask c ask) := by
  have ho : (js[i]?.map fun j => j.value?.isNone).getD false = true := by
    cases window with
    | inOrder => exact (List.mem_filter.1 h).2
    | anyOrder => exact (List.mem_filter.1 (List.mem_of_mem_take h)).2
  cases hj : js[i]? with
  | none => simp [hj] at ho
  | some j =>
    cases j with
    | done b => simp [hj, Job.value?] at ho
    | ask c ask => exact ⟨c, ask, rfl⟩

private theorem takeWhile_done (bs : List β) (c : Call) (ask : c.Reply → Job β)
    (behind : List (Job β)) :
    (bs.map Job.done ++ .ask c ask :: behind).takeWhile (fun j => j.value?.isSome) =
      bs.map .done := by
  simp [Job.value?]

-- The first job that is not done may run under either window.
private theorem runnable_ne_nil {limit : Nat} (hl : 0 < limit) (window : Window) (bs : List β)
    (c : Call) (ask : c.Reply → Job β) (behind : List (Job β)) :
    runnable window limit (bs.map .done ++ .ask c ask :: behind) ≠ [] := by
  have hj : (bs.map Job.done ++ Job.ask c ask :: behind)[bs.length]? = some (.ask c ask) := by
    simp
  cases window with
  | inOrder =>
    refine List.ne_nil_of_mem (a := bs.length) (List.mem_filter.2 ⟨?_, by simp [Job.value?]⟩)
    rw [takeWhile_done, List.length_map]
    exact List.mem_range'_1.2 ⟨Nat.le_refl _, by omega⟩
  | anyOrder =>
    have hm : bs.length ∈ (List.range (bs.map Job.done ++ Job.ask c ask :: behind).length).filter
        fun i => ((bs.map Job.done ++ Job.ask c ask :: behind)[i]?.map
          fun j => j.value?.isNone).getD false := by
      refine List.mem_filter.2 ⟨List.mem_range.2 (by simp), by simp [Job.value?]⟩
    intro h
    rcases List.take_eq_nil_iff.1 h with h | h
    · omega
    · exact List.ne_nil_of_mem hm h

private theorem waiting_ne_nil {limit : Nat} (hl : 0 < limit) (window : Window) (bs : List β)
    (c : Call) (ask : c.Reply → Job β) (behind : List (Job β)) (next : List β → Flow β α) :
    (pool window limit (bs.map .done ++ .ask c ask :: behind) next).waiting ≠ [] := by
  obtain ⟨i, hi⟩ := List.exists_mem_of_ne_nil _ (runnable_ne_nil hl window bs c ask behind)
  obtain ⟨d, asked, hj⟩ := asks_of_mem_runnable hi
  exact List.ne_nil_of_mem (List.mem_filterMap.2 ⟨i, hi, by rw [hj]; rfl⟩)

theorem asks_of_mem_waiting {window : Window} {limit : Nat} {js : List (Job β)}
    {next : List β → Flow β α} {i : Nat} {c : Call}
    (h : (i, c) ∈ (pool window limit js next).waiting) : ∃ ask, js[i]? = some (.ask c ask) := by
  obtain ⟨k, hk, h⟩ := List.mem_filterMap.1 h
  obtain ⟨d, ask, hj⟩ := asks_of_mem_runnable hk
  rw [hj] at h
  obtain ⟨rfl, rfl⟩ := Prod.mk.inj (Option.some_inj.1 h)
  exact ⟨ask, hj⟩

/-- A pool with room for a job is never stuck: any move answers one of its jobs. -/
theorem turn_pool {limit : Nat} (hl : 0 < limit) (window : Window) (bs : List β) (c : Call)
    (ask : c.Reply → Job β) (behind : List (Job β)) (next : List β → Flow β α) (t : Turn)
    (w : Surroundings) :
    ∃ (before : List (Job β)) (d : Call) (asked : d.Reply → Job β) (others : List (Job β)),
      bs.map .done ++ .ask c ask :: behind = before ++ .ask d asked :: others ∧
      (pool window limit (bs.map .done ++ .ask c ask :: behind) next).turn t w =
        ((pool window limit (before ++ asked (t.serve d w).1 :: others) next).settle,
          (t.serve d w).2) := by
  have hw := waiting_ne_nil hl window bs c ask behind next
  generalize bs.map .done ++ .ask c ask :: behind = js at hw
  have hp : t.pick % (pool window limit js next).waiting.length <
      (pool window limit js next).waiting.length := Nat.mod_lt _ (List.length_pos_iff.2 hw)
  obtain ⟨⟨i, d⟩, hi⟩ : ∃ q, (pool window limit js next).waiting[
      t.pick % (pool window limit js next).waiting.length]? = some q :=
    ⟨_, List.getElem?_eq_getElem hp⟩
  obtain ⟨asked, hj⟩ := asks_of_mem_waiting (List.mem_of_getElem? hi)
  obtain ⟨hlt, he⟩ := List.getElem?_eq_some_iff.1 hj
  refine ⟨js.take i, d, asked, js.drop (i + 1), ?_, ?_⟩
  · rw [← he, List.getElem_cons_drop, List.take_append_drop]
  · rw [turn, hi]
    simp only [step, hj, List.set_eq_take_append_cons_drop, hlt]
    rfl

theorem turns_zero (schedule : Nat → Turn) (f : Flow β α) (w : Surroundings) :
    f.turns schedule 0 w = (f, w) := rfl

theorem turns_succ (schedule : Nat → Turn) (n : Nat) (f : Flow β α) (w : Surroundings) :
    f.turns schedule (n + 1) w =
      (f.turn (schedule 0) w).1.turns (fun k => schedule (k + 1)) n (f.turn (schedule 0) w).2 := rfl

theorem turns_add (schedule : Nat → Turn) (m n : Nat) (f : Flow β α) (w : Surroundings) :
    f.turns schedule (m + n) w = (f.turns schedule m w).1.turns (fun k => schedule (k + m)) n
      (f.turns schedule m w).2 := by
  induction m generalizing schedule f w with
  | zero => simp [turns_zero]
  | succ m ih =>
    rw [Nat.add_right_comm, turns_succ, turns_succ, ih]
    simp only [Nat.add_assoc]

theorem turn_ask (t : Turn) (c : Call) (next : c.Reply → Flow β α) (w : Surroundings) :
    (ask c next).turn t w = ((next (t.serve c w).1).settle, (t.serve c w).2) := by
  have hi : (ask c next).waiting[t.pick % (ask c next).waiting.length]? = some (0, c) := by
    simp [waiting, Nat.mod_one]
  rw [turn, hi]
  rfl

/-- Under any schedule a pool with room for a job comes to its end, and the program goes on behind
it with what its jobs gathered. -/
theorem pool_gathers {limit : Nat} (hl : 0 < limit) (window : Window) (js : List (Job β))
    (next : List β → Flow β α) (schedule : Nat → Turn) (w : Surroundings) :
    ∃ n bs v, (pool window limit js next).settle.turns schedule n w = ((next bs).settle, v) ∧
      Gathers js w bs v := by
  induction js using wellFounded_answered.induction generalizing schedule w with
  | _ js ih =>
    obtain ⟨bs, rfl⟩ | ⟨bs, c, ask, behind, rfl⟩ := done_or_asks js
    · exact ⟨0, bs, w, by rw [turns_zero, settle_pool_done], .done bs w⟩
    · obtain ⟨before, d, asked, others, hj, ht⟩ :=
        turn_pool hl window bs c ask behind next (schedule 0) w
      rw [hj] at ih
      obtain ⟨n, vs, v, hn, hg⟩ := ih _ (.intro before d asked ((schedule 0).serve d w).1 others)
        (fun k => schedule (k + 1)) ((schedule 0).serve d w).2
      refine ⟨n + 1, vs, v, ?_, ?_⟩
      · rw [settle_pool_asks, turns_succ, ht, hn]
      · rw [hj]
        exact .turn (schedule 0) hg

end MultiCluster.Flow
