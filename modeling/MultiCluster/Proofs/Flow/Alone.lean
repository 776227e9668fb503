import MultiCluster.Proofs.Flow.Pool
import MultiCluster.Proofs.Store.Answers
import Mathlib.Data.List.Forall2

/-! Jobs about different clusters do not disturb each other: whatever the order of answers, each of
them runs as if it were alone with the store there was at the start. -/
namespace MultiCluster

variable {α β : Type}

namespace Job

/-- A program that comes to a value with some exchanges, from one store to another. -/
inductive Runs : Job α → Store → List Exchange → α → Store → Prop where
  | done (a : α) (s : Store) : Runs (.done a) s [] a s
  | ask {c : Call} {next : c.Reply → Job α} {r : c.Reply} {s t u : Store} {es : List Exchange}
      {a : α} (answer : s.Answers ⟨c, r⟩ t) (rest : Runs (next r) t es a u) :
      Runs (.ask c next) s (⟨c, r⟩ :: es) a u

/-- All questions that a program may come to ask have a property. -/
def Asks (P : Call → Prop) : Job α → Prop
  | .done _ => True
  | .ask c next => P c ∧ ∀ r, (next r).Asks P

theorem Asks.bind {P : Call → Prop} {j : Job α} {f : α → Job β} (h : j.Asks P)
    (hf : ∀ a, (f a).Asks P) : (j.bind f).Asks P := by
  induction j with
  | done a => exact hf a
  | ask c next ih => exact ⟨h.1, fun r => ih r (h.2 r)⟩

theorem runs_done_iff {a b : α} {s t : Store} {es : List Exchange} :
    Runs (.done a) s es b t ↔ es = [] ∧ b = a ∧ t = s := by
  constructor
  · rintro ⟨⟩
    exact ⟨rfl, rfl, rfl⟩
  · rintro ⟨rfl, rfl, rfl⟩
    exact .done b t

theorem runs_ask_iff {c : Call} {next : c.Reply → Job α} {a : α} {s u : Store}
    {es : List Exchange} : Runs (.ask c next) s es a u ↔
      ∃ r t fs, es = ⟨c, r⟩ :: fs ∧ s.Answers ⟨c, r⟩ t ∧ Runs (next r) t fs a u := by
  constructor
  · rintro ⟨⟩
    exact ⟨_, _, _, rfl, ‹_›, ‹_›⟩
  · rintro ⟨r, t, fs, rfl, answer, rest⟩
    exact .ask answer rest

theorem runs_bind_iff {j : Job α} {f : α → Job β} {b : β} {s u : Store} {es : List Exchange} :
    Runs (j.bind f) s es b u ↔
      ∃ fs gs a t, es = fs ++ gs ∧ Runs j s fs a t ∧ Runs (f a) t gs b u := by
  induction j generalizing s es with
  | done a => simp [runs_done_iff]
  | ask c next ih =>
    simp only [ask_bind, runs_ask_iff, ih]
    constructor
    · rintro ⟨r, t, -, rfl, answer, fs, gs, a, v, rfl, h, hf⟩
      exact ⟨⟨c, r⟩ :: fs, gs, a, v, rfl, ⟨r, t, fs, rfl, answer, h⟩, hf⟩
    · rintro ⟨-, gs, a, v, rfl, ⟨r, t, fs, rfl, answer, h⟩, hf⟩
      exact ⟨r, t, fs ++ gs, rfl, answer, fs, gs, a, v, rfl, h, hf⟩

/-- A program about one cluster takes the same course over any store with the same record of it. -/
theorem Runs.congr {id : String} {j : Job α} {s s' t : Store} {es : List Exchange} {a : α}
    (h : j.Runs s es a s') (hj : j.Asks (Call.IsAbout id)) (ht : t.get? id = s.get? id) :
    ∃ t', j.Runs t es a t' ∧ t'.get? id = s'.get? id := by
  induction h generalizing t with
  | done a s => exact ⟨t, .done a t, ht⟩
  | ask answer rest ih =>
    obtain ⟨v, hv, hvt⟩ := answer.congr hj.1 ht
    obtain ⟨u, hu, hut⟩ := ih (hj.2 _) hvt
    exact ⟨u, .ask hv hu, hut⟩

end Job

/-- What a job said and was answered, and its value. -/
structure Solo (β : Type) where
  talk : List Exchange
  value : β

/-- A job about the cluster under an id, and a course that it takes alone over the first store, with
the effect that the record of the cluster is the one in the last store. -/
def Solo.Fits (s s' : Store) (task : String × Job β) (solo : Solo β) : Prop :=
  ∃ t, task.2.Runs s solo.talk solo.value t ∧ s'.get? task.1 = t.get? task.1

/-- Jobs, each about the cluster under an id, that ran as if alone. They said nothing else, and no
record but theirs is changed. -/
structure Apart (tasks : List (String × Job β)) (s : Store) (said : List Exchange)
    (solos : List (Solo β)) (s' : Store) : Prop where
  alone : List.Forall₂ (Solo.Fits s s') tasks solos
  said : said.Perm (solos.flatMap (·.talk))
  others : ∀ id, id ∉ tasks.map (·.1) → s'.get? id = s.get? id
  ids : s'.ids = s.ids

theorem forall₂_middle {γ δ : Type} {R : γ → δ → Prop} {before behind : List γ} {x : γ}
    {ys : List δ} : List.Forall₂ R (before ++ x :: behind) ys ↔ ∃ bs y cs, ys = bs ++ y :: cs ∧
      List.Forall₂ R before bs ∧ R x y ∧ List.Forall₂ R behind cs := by
  induction before generalizing ys with
  | nil =>
    rw [List.nil_append, List.forall₂_cons_left_iff]
    constructor
    · rintro ⟨y, cs, hx, hc, rfl⟩
      exact ⟨[], y, cs, rfl, .nil, hx, hc⟩
    · rintro ⟨bs, y, cs, rfl, hb, hx, hc⟩
      rw [List.forall₂_nil_left_iff.1 hb]
      exact ⟨y, cs, hx, hc, rfl⟩
  | cons b before ih =>
    rw [List.cons_append, List.forall₂_cons_left_iff]
    constructor
    · rintro ⟨z, zs, hz, hzs, rfl⟩
      obtain ⟨bs, y, cs, rfl, hb, hx, hc⟩ := ih.1 hzs
      exact ⟨z :: bs, y, cs, rfl, .cons hz hb, hx, hc⟩
    · rintro ⟨bs, y, cs, rfl, hb, hx, hc⟩
      obtain ⟨z, zs, hz, hzs, rfl⟩ := List.forall₂_cons_left_iff.1 hb
      exact ⟨z, zs ++ y :: cs, hz, ih.2 ⟨zs, y, cs, rfl, hzs, hx, hc⟩, rfl⟩

/-- Pairs that are all shown by something are shown by a list. -/
theorem exists_map_eq_of_forall₂ {γ δ ε : Type} {R : γ → δ → Prop} {f : ε → γ} {g : ε → δ}
    {P : ε → Prop} {xs : List γ} {ys : List δ}
    (hR : ∀ x ∈ xs, ∀ y, R x y → ∃ e, f e = x ∧ g e = y ∧ P e) (h : List.Forall₂ R xs ys) :
    ∃ es : List ε, es.map f = xs ∧ es.map g = ys ∧ ∀ e ∈ es, P e := by
  induction h with
  | nil => exact ⟨[], rfl, rfl, by simp⟩
  | cons hxy _ ih =>
    obtain ⟨e, rfl, rfl, he⟩ := hR _ (by simp) _ hxy
    obtain ⟨es, rfl, rfl, hes⟩ := ih fun x hx => hR x (by simp [hx])
    exact ⟨e :: es, rfl, rfl, by simpa using ⟨he, hes⟩⟩

-- A course over a later store is one over an earlier store with the same record.
private theorem fits_earlier {s t u : Store} {tasks : List (String × Job β)}
    {solos : List (Solo β)} (hj : ∀ task ∈ tasks, task.2.Asks (Call.IsAbout task.1))
    (ht : ∀ task ∈ tasks, s.get? task.1 = t.get? task.1)
    (h : List.Forall₂ (Solo.Fits t u) tasks solos) : List.Forall₂ (Solo.Fits s u) tasks solos := by
  have hp := (List.forall₂_and_left (p := fun task : String × Job β =>
    task.2.Asks (Call.IsAbout task.1) ∧ s.get? task.1 = t.get? task.1) _ _).2
    ⟨fun task ht' => ⟨hj task ht', ht task ht'⟩, h⟩
  refine hp.imp fun task solo => ?_
  rintro ⟨⟨hj, ht⟩, v, hv, hu⟩
  obtain ⟨v', hv', he⟩ := hv.congr hj ht
  exact ⟨v', hv', hu.trans he.symm⟩

namespace Apart

variable {tasks more : List (String × Job β)} {s t u : Store} {said after : List Exchange}
  {solos others : List (Solo β)}

/-- One more answer at the front, to one of the jobs. -/
theorem answer {before behind : List (String × Job β)} {id : String} {c : Call}
    {next : c.Reply → Job β} {r : c.Reply}
    (hid : ((before ++ (id, .ask c next) :: behind).map (·.1)).Nodup)
    (hj : ∀ task ∈ before ++ (id, .ask c next) :: behind, task.2.Asks (Call.IsAbout task.1))
    (hr : s.Answers ⟨c, r⟩ t) (h : Apart (before ++ (id, next r) :: behind) t said solos u) :
    ∃ solos', solos'.map (·.value) = solos.map (·.value) ∧
      Apart (before ++ (id, .ask c next) :: behind) s (⟨c, r⟩ :: said) solos' u := by
  have hc : c.IsAbout id := (hj (id, .ask c next) (by simp)).1
  have hframe : ∀ j, j ≠ id → s.get? j = t.get? j := fun j hne => (hr.frame hc hne).symm
  obtain ⟨bs, y, cs, rfl, hb, ⟨v, hv, hu⟩, hcs⟩ := forall₂_middle.1 h.alone
  simp only [List.map_append, List.map_cons, List.nodup_append, List.nodup_cons] at hid
  refine ⟨bs ++ ⟨⟨c, r⟩ :: y.talk, y.value⟩ :: cs, by simp, ?_, ?_, ?_, ?_⟩
  · refine forall₂_middle.2 ⟨bs, _, cs, rfl, ?_, ⟨v, .ask hr hv, hu⟩, ?_⟩
    · refine fits_earlier (fun task ht => hj task (by simp [ht])) (fun task ht => ?_) hb
      exact hframe _ (hid.2.2 _ (List.mem_map_of_mem ht) id (by simp))
    · refine fits_earlier (fun task ht => hj task (by simp [ht])) (fun task ht => ?_) hcs
      exact hframe _ fun he => hid.2.1.1 (he ▸ List.mem_map_of_mem ht)
  · have hp := h.said.cons ⟨c, r⟩
    simp only [List.flatMap_append, List.flatMap_cons, List.cons_append] at hp ⊢
    exact hp.trans List.perm_middle.symm
  · intro j hj
    simp only [List.map_append, List.map_cons, List.mem_append, List.mem_cons, not_or] at hj
    rw [h.others j (by simpa using hj), hframe j hj.2.1]
  · rw [h.ids, hr.ids hc]

/-- Jobs that run after others, about yet other clusters. -/
theorem append (hid : ((tasks ++ more).map (·.1)).Nodup)
    (hj : ∀ task ∈ more, task.2.Asks (Call.IsAbout task.1))
    (h : Apart tasks s said solos t) (h' : Apart more t after others u) :
    Apart (tasks ++ more) s (said ++ after) (solos ++ others) u := by
  rw [List.map_append, List.nodup_append] at hid
  refine ⟨List.rel_append ?_ ?_, ?_, ?_, h'.ids.trans h.ids⟩
  · have hm := (List.forall₂_and_left (p := fun task : String × Job β =>
      task.1 ∈ tasks.map (·.1)) _ _).2 ⟨fun task ht => List.mem_map_of_mem ht, h.alone⟩
    refine hm.imp fun task solo => ?_
    rintro ⟨hm, v, hv, ht⟩
    exact ⟨v, hv, (h'.others _ fun hn => hid.2.2 _ hm _ hn rfl).trans ht⟩
  · refine fits_earlier hj (fun task hm => (h.others _ fun hn => ?_).symm) h'.alone
    exact hid.2.2 _ hn _ (List.mem_map_of_mem hm) rfl
  · simpa only [List.flatMap_append] using h.said.append h'.said
  · intro id hn
    simp only [List.map_append, List.mem_append, not_or] at hn
    exact (h'.others id hn.2).trans (h.others id hn.1)

end Apart

/-- A pool of jobs about different clusters. -/
theorem Flow.Gathers.apart {js : List (Job β)} {w v : Surroundings} {bs : List β}
    (h : Flow.Gathers js w bs v) (tasks : List (String × Job β)) (ht : tasks.map (·.2) = js)
    (hid : (tasks.map (·.1)).Nodup) (hj : ∀ task ∈ tasks, task.2.Asks (Call.IsAbout task.1)) :
    ∃ said solos, v.past = w.past ++ said ∧ solos.map (·.value) = bs ∧
      Apart tasks w.store said solos v.store := by
  induction h generalizing tasks with
  | done bs w =>
    have he : List.Forall₂ (fun task b => task.2 = Job.done b) tasks bs := by
      have hf : List.Forall₂ Eq (tasks.map (·.2)) (bs.map Job.done) := by
        rw [ht, List.forall₂_eq_eq_eq]
      exact List.forall₂_map_right_iff.1 (List.forall₂_map_left_iff.1 hf)
    refine ⟨[], bs.map fun b => ⟨[], b⟩, by simp, by simp [Function.comp_def], ?_, by simp,
      fun _ _ => rfl, rfl⟩
    refine List.forall₂_map_right_iff.2 (he.imp fun task b hb => ⟨w.store, ?_, rfl⟩)
    rw [hb]
    exact .done b w.store
  | @turn c next before behind w v bs t rest ih =>
    obtain ⟨front, tail, rfl, hf, hb⟩ := List.map_eq_append_iff.1 ht
    obtain ⟨⟨id, j⟩, back, rfl, rfl, rfl⟩ := List.map_eq_cons_iff.1 hb
    subst hf
    have hnext : (id, next (t.serve c w).1).2.Asks (Call.IsAbout id) :=
      (hj (id, .ask c next) (by simp)).2 _
    obtain ⟨said, solos, hp, rfl, h⟩ := ih (front ++ (id, next (t.serve c w).1) :: back)
      (by simp) (by simpa using hid) (by
        simp only [List.mem_append, List.mem_cons] at hj ⊢
        rintro task (hm | rfl | hm)
        · exact hj task (.inl hm)
        · exact hnext
        · exact hj task (.inr (.inr hm)))
    obtain ⟨solos', hv, h'⟩ := Apart.answer hid hj ⟨t, t.answer_store c w⟩ h
    exact ⟨_, solos', by rw [hp, Turn.past_serve, List.append_assoc]; rfl, hv, h'⟩

/-- A pool of jobs for different members comes to its end under any schedule, each job as if it
were the only one. -/
theorem Flow.pool_apart {limit : Nat} (hl : 0 < limit) (window : Window) {ms : List Member}
    (hid : (ms.map (·.id)).Nodup) {job : Member → Job β}
    (hj : ∀ m, (job m).Asks (Call.IsAbout m.id)) (next : List β → Flow β α)
    (schedule : Nat → Turn) (w : Surroundings) :
    ∃ n said solos v, (pool window limit (ms.map job) next).settle.turns schedule n w =
        ((next (solos.map (·.value))).settle, v) ∧ v.past = w.past ++ said ∧
      Apart (ms.map fun m => (m.id, job m)) w.store said solos v.store := by
  obtain ⟨n, bs, v, hn, hg⟩ := pool_gathers hl window (ms.map job) next schedule w
  obtain ⟨said, solos, hp, rfl, ha⟩ := hg.apart (ms.map fun m => (m.id, job m))
    (by simp [Function.comp_def]) (by simpa [Function.comp_def] using hid) fun task ht => by
      obtain ⟨m, -, rfl⟩ := List.mem_map.1 ht
      exact hj m
  exact ⟨n, said, solos, v, hn, hp, ha⟩

/-- What came of jobs for registered members, if each course that a job can take over a store with
its member is described by something. -/
theorem Apart.described {γ : Type} {member left : γ → Member} {talk : γ → List Exchange}
    {value : γ → β} {job : Member → Job β} (hr : ∀ {m : Member} {s t : Store} {es : List Exchange}
      {b : β}, (job m).Runs s es b t → s.get? m.id = some m →
        ∃ x, member x = m ∧ talk x = es ∧ value x = b ∧ t.get? m.id = some (left x))
    {ms : List Member} {s s' : Store} {said : List Exchange} {solos : List (Solo β)}
    (hm : ∀ m ∈ ms, m ∈ s.members)
    (h : Apart (ms.map fun m => (m.id, job m)) s said solos s') :
    ∃ xs : List γ, xs.map member = ms ∧ xs.map value = solos.map (·.value) ∧
      said.Perm (xs.flatMap talk) ∧
      (∀ x ∈ xs, s'.get? (member x).id = some (left x)) ∧
      ∀ id, id ∉ xs.map (fun x => (member x).id) → s'.get? id = s.get? id := by
  have hx : ∀ m ∈ ms, ∀ solo, Solo.Fits s s' (m.id, job m) solo →
      ∃ x, member x = m ∧ (⟨talk x, value x⟩ : Solo β) = solo ∧
        s'.get? (member x).id = some (left x) := by
    rintro m hms ⟨es, b⟩ ⟨t, hrun, he⟩
    obtain ⟨x, rfl, rfl, rfl, hl⟩ := hr hrun (Store.get?_of_mem (hm m hms))
    exact ⟨x, rfl, rfl, he.trans hl⟩
  obtain ⟨xs, rfl, rfl, hl⟩ := exists_map_eq_of_forall₂ hx (List.forall₂_map_left_iff.1 h.alone)
  refine ⟨xs, rfl, by simp [Function.comp_def], by simpa [List.flatMap_map] using h.said, hl, ?_⟩
  intro id hn
  exact h.others id (by simpa [Function.comp_def] using hn)

end MultiCluster
