import MultiCluster.Proofs.Flow.Asks

/-! Programs on their way, while others may change the store between any two answers: what a program
has said, and what each job of its pools has said. -/
namespace MultiCluster

variable {α β : Type}

/-- An exchange and the store that there was when it was had. -/
structure Moment where
  store : Store
  exchange : Exchange

namespace Job

/-- A program that has become another one after some exchanges, whatever the answers. -/
inductive Says : Job α → List Exchange → Job α → Prop where
  | nothing (j : Job α) : Says j [] j
  | ask {c : Call} {next : c.Reply → Job α} (r : c.Reply) {es : List Exchange} {k : Job α}
      (rest : Says (next r) es k) : Says (.ask c next) (⟨c, r⟩ :: es) k

variable {j k l : Job α} {es fs : List Exchange}

theorem says_done_iff {a : α} : Says (.done a) es k ↔ es = [] ∧ k = .done a := by
  constructor
  · rintro ⟨⟩
    exact ⟨rfl, rfl⟩
  · rintro ⟨rfl, rfl⟩
    exact .nothing _

/-- A question is followed by its answer once there are any exchanges. -/
theorem says_ask_iff {c : Call} {next : c.Reply → Job α} : Says (.ask c next) es k ↔
    es = [] ∧ k = .ask c next ∨ ∃ r fs, es = ⟨c, r⟩ :: fs ∧ Says (next r) fs k := by
  constructor
  · rintro ⟨⟩
    · exact .inl ⟨rfl, rfl⟩
    · exact .inr ⟨_, _, rfl, ‹_›⟩
  · rintro (⟨rfl, rfl⟩ | ⟨r, fs, rfl, rest⟩)
    · exact .nothing _
    · exact .ask r rest

/-- A program that has come to its value was answered every question. -/
theorem says_ask_done_iff {c : Call} {next : c.Reply → Job α} {a : α} :
    Says (.ask c next) es (.done a) ↔ ∃ r fs, es = ⟨c, r⟩ :: fs ∧ Says (next r) fs (.done a) := by
  simp [says_ask_iff]

theorem Says.trans (h : j.Says es k) (hk : k.Says fs l) : j.Says (es ++ fs) l := by
  induction h with
  | nothing j => exact hk
  | ask r _ ih => exact .ask r (ih hk)

theorem Says.concat {c : Call} {next : c.Reply → Job α} (h : j.Says es (.ask c next))
    (r : c.Reply) : j.Says (es ++ [⟨c, r⟩]) (next r) :=
  h.trans (.ask r (.nothing _))

theorem says_bind_done_iff {f : α → Job β} {b : β} : Says (j.bind f) es (.done b) ↔
    ∃ fs gs a, es = fs ++ gs ∧ Says j fs (.done a) ∧ Says (f a) gs (.done b) := by
  induction j generalizing es with
  | done a => simp [says_done_iff]
  | ask c next ih =>
    simp only [ask_bind, says_ask_done_iff, ih]
    constructor
    · rintro ⟨r, -, rfl, fs, gs, a, rfl, h, hf⟩
      exact ⟨⟨c, r⟩ :: fs, gs, a, rfl, ⟨r, fs, rfl, h⟩, hf⟩
    · rintro ⟨-, gs, a, rfl, ⟨r, fs, rfl, h⟩, hf⟩
      exact ⟨r, fs ++ gs, rfl, fs, gs, a, rfl, h, hf⟩

/-- Every program may come to some value. -/
theorem exists_says_done (j : Job α) : ∃ es a, j.Says es (.done a) := by
  induction j with
  | done a => exact ⟨[], a, .nothing _⟩
  | ask c next ih =>
    obtain ⟨es, a, h⟩ := ih (Turn.plain.outside c)
    exact ⟨_, a, .ask _ h⟩

/-- What is said on the way is the beginning of something that is said to the end. -/
theorem Says.exists_prefix (h : j.Says es k) : ∃ fs a, es <+: fs ∧ j.Says fs (.done a) := by
  obtain ⟨gs, a, hg⟩ := k.exists_says_done
  exact ⟨es ++ gs, a, List.prefix_append es gs, h.trans hg⟩

theorem Says.asks {P : Call → Prop} (h : j.Says es k) (hj : j.Asks P) : ∀ e ∈ es, P e.call := by
  induction h with
  | nothing j => simp
  | ask r _ ih => simpa using ⟨hj.1, ih (hj.2 r)⟩

end Job

/-- A job of a pool, what it has said so far, and what is left of it. -/
structure Thread (β : Type) where
  job : Job β
  talk : List Moment
  now : Job β

namespace Thread

/-- Whether the talk leads from the job to what is left. -/
def Runs (t : Thread β) : Prop := t.job.Says (t.talk.map (·.exchange)) t.now

/-- The thread after one more answer. -/
def heard (t : Thread β) (x : Moment) (now : Job β) : Thread β :=
  { t with talk := t.talk ++ [x], now }

/-- A job that has said nothing. -/
def start (j : Job β) : Thread β := ⟨j, [], j⟩

theorem runs_start (j : Job β) : (start j).Runs := .nothing j

theorem Runs.heard {t : Thread β} {c : Call} {next : c.Reply → Job β} (h : t.Runs)
    (hn : t.now = .ask c next) (s : Store) (r : c.Reply) :
    (t.heard ⟨s, c, r⟩ (next r)).Runs := by
  have h : t.job.Says (t.talk.map (·.exchange)) (.ask c next) := hn ▸ h
  simpa [Thread.Runs, Thread.heard] using h.concat r

end Thread

namespace Flow

/-- A program that has become another one: what it has said itself, and the jobs of the pools that
it has come to. -/
inductive Course : Flow β α → List Moment → List (Thread β) → Flow β α → Prop where
  | done (a : α) : Course (.done a) [] [] (.done a)
  | waits (c : Call) (next : c.Reply → Flow β α) : Course (.ask c next) [] [] (.ask c next)
  | ask {c : Call} {next : c.Reply → Flow β α} (s : Store) (r : c.Reply) {own : List Moment}
      {threads : List (Thread β)} {g : Flow β α} (rest : Course (next r).settle own threads g) :
      Course (.ask c next) (⟨s, c, r⟩ :: own) threads g
  | pool (window : Window) (limit : Nat) {threads : List (Thread β)} (next : List β → Flow β α)
      (runs : ∀ t ∈ threads, t.Runs) :
      Course (.pool window limit (threads.map (·.job)) next) [] threads
        (.pool window limit (threads.map (·.now)) next)
  | behind (window : Window) (limit : Nat) {threads : List (Thread β)} {next : List β → Flow β α}
      {bs : List β} (runs : ∀ t ∈ threads, t.Runs) (ends : threads.map (·.now) = bs.map .done)
      {own : List Moment} {more : List (Thread β)} {g : Flow β α}
      (rest : Course (next bs).settle own more g) :
      Course (.pool window limit (threads.map (·.job)) next) own (threads ++ more) g

/-- All that was said on a course, in some order. -/
def whole (own : List Moment) (threads : List (Thread β)) : List Moment :=
  threads.flatMap (·.talk) ++ own

/-- One more exchange: it was had by the program itself or by one of the jobs, and new jobs may have
come that have said nothing. -/
structure Grown (x : Moment) (own own' : List Moment) (threads threads' : List (Thread β)) :
    Prop where
  whole : (whole own' threads').Perm (whole own threads ++ [x])
  own : own' = own ∨ own' = own ++ [x]
  threads : ∀ t' ∈ threads', t'.talk = [] ∨
    ∃ t ∈ threads, t'.talk = t.talk ∨ t'.talk = t.talk ++ [x]

/-- Every program that has settled may be on its way. -/
theorem Course.start (f : Flow β α) :
    ∃ threads, Course f.settle [] threads f.settle ∧ ∀ t ∈ threads, t.talk = [] := by
  induction f with
  | done a => exact ⟨[], .done a, by simp⟩
  | ask c next => exact ⟨[], .waits c next, by simp⟩
  | pool window limit jobs next ih =>
    rw [settle]
    cases results? jobs with
    | some bs => exact ih bs
    | none =>
      refine ⟨jobs.map .start, ?_, by simp [Thread.start]⟩
      have hr : ∀ t ∈ jobs.map Thread.start, t.Runs := by simp [Thread.runs_start]
      simpa [Function.comp_def, Thread.start] using Course.pool window limit next hr

theorem turn_done (t : Turn) (a : α) (w : Surroundings) :
    (done (β := β) a).turn t w = (done a, w) := rfl

/-- A move of the surroundings answers a job of a pool, or nothing waits for an answer. -/
theorem turn_threads (window : Window) (limit : Nat) (threads : List (Thread β))
    (next : List β → Flow β α) (t : Turn) (w : Surroundings) :
    let f := pool window limit (threads.map (·.now)) next
    f.turn t w = (f, w) ∨ ∃ (before behind : List (Thread β)) (x : Thread β) (c : Call)
      (ask : c.Reply → Job β), threads = before ++ x :: behind ∧ x.now = .ask c ask ∧
      f.turn t w = ((pool window limit (before.map (·.now) ++ ask (t.serve c w).1 ::
        behind.map (·.now)) next).settle, (t.serve c w).2) := by
  intro f
  cases hq : f.waiting[t.pick % f.waiting.length]? with
  | none => exact .inl (by rw [turn, hq]; rfl)
  | some q =>
    obtain ⟨i, d⟩ := q
    obtain ⟨ask, hj⟩ := asks_of_mem_waiting (List.mem_of_getElem? hq)
    obtain ⟨hi, hx⟩ := List.getElem?_eq_some_iff.1 hj
    rw [List.getElem_map] at hx
    rw [List.length_map] at hi
    refine .inr ⟨threads.take i, threads.drop (i + 1), threads[i], d, ask, ?_, hx, ?_⟩
    · rw [List.getElem_cons_drop, List.take_append_drop]
    · have hs (now : Job β) : (threads.map (·.now)).set i now =
          (threads.take i).map (·.now) ++ now :: (threads.drop (i + 1)).map (·.now) := by
        rw [List.set_eq_take_append_cons_drop, if_pos (by simpa using hi), List.map_take,
          List.map_drop]
      rw [turn, hq]
      simp only [f, step, hj, hs]
      rfl

private theorem perm_heard (before behind : List (Thread β)) (t : Thread β) (x : Moment)
    (now : Job β) : (whole [] (before ++ t.heard x now :: behind)).Perm
      (whole [] (before ++ t :: behind) ++ [x]) := by
  have hx : ([x] ++ behind.flatMap (·.talk)).Perm (behind.flatMap (·.talk) ++ [x]) :=
    List.perm_append_comm
  simp only [whole, Thread.heard, List.flatMap_append, List.flatMap_cons, List.append_nil,
    List.append_assoc]
  exact (hx.append_left t.talk).append_left _

/-- A pool whose jobs have said something is on its way, also when the last of them has ended. -/
theorem Course.settled (window : Window) (limit : Nat) {threads : List (Thread β)}
    (next : List β → Flow β α) (runs : ∀ t ∈ threads, t.Runs) :
    ∃ more, Course (Flow.pool window limit (threads.map (·.job)) next) [] (threads ++ more)
      (Flow.pool window limit (threads.map (·.now)) next).settle ∧ ∀ t ∈ more, t.talk = [] := by
  obtain ⟨bs, hb⟩ | ⟨bs, c, ask, behind, hb⟩ := done_or_asks (threads.map (·.now))
  · obtain ⟨more, hs, he⟩ := Course.start (next bs)
    refine ⟨more, ?_, he⟩
    rw [hb, settle_pool_done]
    exact .behind window limit runs hb hs
  · refine ⟨[], ?_, by simp⟩
    rw [hb, settle_pool_asks, ← hb, List.append_nil]
    exact .pool window limit next runs

/-- A program on its way stays on its way: whatever the surroundings do, it says nothing, or one
more exchange was had with the store that there was. -/
theorem Course.turn {f g : Flow β α} {own : List Moment} {threads : List (Thread β)}
    (h : Course f own threads g) (t : Turn) (w : Surroundings) :
    g.turn t w = (g, w) ∨ ∃ c own' threads',
      Course f own' threads' (g.turn t w).1 ∧ (g.turn t w).2 = (t.serve c w).2 ∧
      Grown ⟨w.store, c, (t.serve c w).1⟩ own own' threads threads' := by
  induction h with
  | done a => exact .inl (turn_done t a w)
  | waits c next =>
    obtain ⟨threads, hs, he⟩ := Course.start (next (t.serve c w).1)
    rw [turn_ask]
    refine .inr ⟨c, _, threads, .ask w.store (t.serve c w).1 hs, rfl, ?_, .inr rfl, ?_⟩
    · have hn : threads.flatMap (·.talk) = [] := List.flatMap_eq_nil_iff.2 he
      simp [whole, hn]
    · exact fun t' ht => .inl (he t' ht)
  | ask s r _ ih =>
    obtain hs | ⟨c, own', threads', hc, hw, hg⟩ := ih
    · exact .inl hs
    · refine .inr ⟨c, _, threads', .ask s r hc, hw, ?_, ?_, hg.threads⟩
      · have hp := hg.whole.cons ⟨s, _, r⟩
        exact List.perm_middle.trans (hp.trans (List.perm_middle.symm.append_right _))
      · obtain rfl | rfl := hg.own
        · exact .inl rfl
        · exact .inr rfl
  | @pool window limit threads next runs =>
    obtain hs | ⟨before, behind, x, c, ask, rfl, hx, ht⟩ :=
      turn_threads window limit threads next t w
    · exact .inl hs
    · have hr : ∀ y ∈ before ++ x.heard ⟨w.store, c, (t.serve c w).1⟩ (ask (t.serve c w).1) ::
          behind, y.Runs := by
        simp only [List.mem_append, List.mem_cons] at runs ⊢
        rintro y (hy | rfl | hy)
        · exact runs y (.inl hy)
        · exact (runs x (.inr (.inl rfl))).heard hx w.store _
        · exact runs y (.inr (.inr hy))
      obtain ⟨more, hc, he⟩ := Course.settled (α := α) window limit next hr
      simp only [List.map_append, List.map_cons] at hc ht ⊢
      rw [ht]
      refine .inr ⟨c, [], _, hc, rfl, ?_, .inl rfl, ?_⟩
      · have hn : more.flatMap (·.talk) = [] := List.flatMap_eq_nil_iff.2 he
        simpa [whole, hn] using perm_heard before behind x _ _
      · simp only [List.mem_append, List.mem_cons]
        rintro y ((hy | rfl | hy) | hy)
        · exact .inr ⟨y, .inl hy, .inl rfl⟩
        · exact .inr ⟨x, .inr (.inl rfl), .inr rfl⟩
        · exact .inr ⟨y, .inr (.inr hy), .inl rfl⟩
        · exact .inl (he y hy)
  | behind window limit runs ends _ ih =>
    obtain hs | ⟨c, own', threads', hc, hw, hg⟩ := ih
    · exact .inl hs
    · refine .inr ⟨c, own', _, .behind window limit runs ends hc, hw, ?_, hg.own, ?_⟩
      · have hp := hg.whole
        simp only [whole, List.flatMap_append, List.append_assoc] at hp ⊢
        exact hp.append_left _
      · intro t' ht
        obtain ht | ht := List.mem_append.1 ht
        · exact .inr ⟨t', List.mem_append_left _ ht, .inl rfl⟩
        · obtain he | ⟨t, hm, ht⟩ := hg.threads t' ht
          · exact .inl he
          · exact .inr ⟨t, List.mem_append_right _ hm, ht⟩

/-- A record of all that was said on a course, in which each part has kept its order. -/
structure Splits (log own : List Moment) (threads : List (Thread β)) : Prop where
  perm : log.Perm (whole own threads)
  own : own.Sublist log
  threads : ∀ t ∈ threads, t.talk.Sublist log

/-- A program that has become another one with the exchanges of a record. -/
def Logged (f : Flow β α) (log : List Moment) (g : Flow β α) : Prop :=
  ∃ own threads, Course f own threads g ∧ Splits log own threads

theorem logged_start (f : Flow β α) : Logged f.settle [] f.settle := by
  obtain ⟨threads, hc, he⟩ := Course.start f
  have hn : threads.flatMap (·.talk) = [] := List.flatMap_eq_nil_iff.2 he
  exact ⟨[], threads, hc, by simp [whole, hn], .slnil, fun t ht => by simp [he t ht]⟩

/-- What is said last stands last in the record. -/
theorem Logged.turn {f g : Flow β α} {log : List Moment} (h : Logged f log g) (t : Turn)
    (w : Surroundings) : g.turn t w = (g, w) ∨ ∃ c, (g.turn t w).2 = (t.serve c w).2 ∧
      Logged f (log ++ [⟨w.store, c, (t.serve c w).1⟩]) (g.turn t w).1 := by
  obtain ⟨own, threads, hc, hs⟩ := h
  obtain hn | ⟨c, own', threads', hc', hw, hg⟩ := hc.turn t w
  · exact .inl hn
  · refine .inr ⟨c, hw, own', threads', hc', ?_, ?_, ?_⟩
    · exact (hs.perm.append_right _).trans hg.whole.symm
    · obtain rfl | rfl := hg.own
      · exact hs.own.trans (List.sublist_append_left log _)
      · exact hs.own.append (.refl _)
    · intro t' ht'
      obtain he | ⟨t, ht, he | he⟩ := hg.threads t' ht' <;> rw [he]
      · exact List.nil_sublist _
      · exact (hs.threads t ht).trans (List.sublist_append_left log _)
      · exact (hs.threads t ht).append (.refl _)

/-- A pool on its way, none of whose jobs was done at first: its jobs have come some way each, or
all of them are done and the program goes on with their results. -/
theorem Course.pool_cases {window : Window} {limit : Nat} {jobs : List (Job β)}
    {next : List β → Flow β α} {own : List Moment} {threads : List (Thread β)} {g : Flow β α}
    (hj : ∀ j ∈ jobs, j.value? = none)
    (h : Course (Flow.pool window limit jobs next).settle own threads g) :
    (own = [] ∧ threads.map (·.job) = jobs ∧ (∀ t ∈ threads, t.Runs) ∧ g.value? = none) ∨
      ∃ front more bs, threads = front ++ more ∧ front.map (·.job) = jobs ∧
        (∀ t ∈ front, t.Runs) ∧ front.map (·.now) = bs.map .done ∧
        Course (next bs).settle own more g := by
  obtain ⟨bs, rfl⟩ | ⟨bs, c, ask, behind, rfl⟩ := done_or_asks jobs
  · rw [settle_pool_done] at h
    cases bs with
    | nil => exact .inr ⟨[], threads, [], rfl, rfl, by simp, rfl, h⟩
    | cons b bs => cases hj (.done b) (by simp)
  · rw [settle_pool_asks] at h
    generalize bs.map Job.done ++ .ask c ask :: behind = jobs at h ⊢
    cases h with
    | pool _ _ _ runs => exact .inl ⟨rfl, rfl, runs, rfl⟩
    | behind _ _ runs ends rest => exact .inr ⟨_, _, _, rfl, rfl, runs, ends, rest⟩

/-- A pool gathers a value of each job, which the job came to with some exchanges. -/
theorem Gathers.says {js : List (Job β)} {w v : Surroundings} {bs : List β}
    (h : Gathers js w bs v) : List.Forall₂ (fun j b => ∃ es, j.Says es (.done b)) js bs := by
  induction h with
  | done bs w => simp [List.forall₂_map_left_iff, List.forall₂_same, Job.says_done_iff]
  | @turn c next before behind w v bs t rest ih =>
    obtain ⟨front, b, back, rfl, hf, ⟨es, hes⟩, hb⟩ := forall₂_middle.1 ih
    exact forall₂_middle.2 ⟨front, b, back, rfl, hf, ⟨_, .ask _ hes⟩, hb⟩

theorem settle_ofJob (j : Job α) : (ofJob (β := β) j).settle = ofJob j := by
  cases j <;> rfl

/-- A sequential program has no jobs besides itself. -/
theorem Course.ofJob {j : Job α} {own : List Moment} {threads : List (Thread β)} {g : Flow β α}
    (h : Course (Flow.ofJob j) own threads g) :
    threads = [] ∧ ∃ k, g = Flow.ofJob k ∧ j.Says (own.map (·.exchange)) k := by
  induction j generalizing own with
  | done a =>
    rcases h with ⟨⟩
    exact ⟨rfl, .done a, rfl, .nothing _⟩
  | ask c next ih =>
    rcases h with _ | _ | ⟨s, r, rest⟩
    · exact ⟨rfl, .ask c next, rfl, .nothing _⟩
    · rw [settle_ofJob] at rest
      obtain ⟨rfl, k, rfl, hk⟩ := ih r rest
      exact ⟨rfl, k, rfl, .ask r hk⟩

/-- The record of a sequential program is what it has said. -/
theorem Logged.ofJob {j : Job α} {log : List Moment} {g : Flow β α}
    (h : Logged (Flow.ofJob j) log g) :
    ∃ k, g = Flow.ofJob k ∧ j.Says (log.map (·.exchange)) k := by
  obtain ⟨own, threads, hc, hs⟩ := h
  obtain ⟨rfl, k, rfl, hk⟩ := hc.ofJob
  obtain rfl : own = log := hs.own.eq_of_length hs.perm.length_eq.symm
  exact ⟨k, rfl, hk⟩

end Flow
end MultiCluster
