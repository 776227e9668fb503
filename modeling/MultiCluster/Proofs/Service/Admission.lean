import MultiCluster.Kube.Client
import MultiCluster.Proofs.Service.Register
import MultiCluster.Proofs.Service.Sound

/-! Registrations side by side: no two of them get the same id, and each goes on with the cluster
that it has registered itself. -/
namespace MultiCluster

/-- The error that a question is answered with. -/
def Exchange.error? : Exchange → Option Error
  | ⟨.registry _, .error e⟩ => some e
  | ⟨.connect _, .error e⟩ => some e
  | ⟨.nodes _, .error e⟩ => some e
  | ⟨.usage .., .error e⟩ => some e
  | ⟨.version _, .error e⟩ => some e
  | ⟨.access _, .error e⟩ => some e
  | ⟨.monitor _, .error e⟩ => some e
  | ⟨.query .., .error e⟩ => some e
  | _ => none

end MultiCluster

/-! No member cluster answers with a conflict: neither when a client is built for it, nor when its
nodes are listed. -/
namespace MultiCluster.Kube

theorem Client.ofKubeconfig_error {kubeconfig cluster name : String} {context : Option String}
    {limit : Span} {e : Error} (h : ofKubeconfig kubeconfig context cluster name limit = .error e) :
    ∃ reason, e = .invalidCredential cluster reason := by
  unfold ofKubeconfig at h
  simp only at h
  split at h
  · cases h
  · exact ⟨_, (Except.error.inj h).symm⟩

private theorem readWithin_ne_conflict {α : Type} (limit : Span) (what reason : String)
    (decoder : Json.Decoder α) (r : Reply) :
    r.readWithin limit what decoder ≠ .error (.conflict reason) := by
  intro h
  unfold Reply.readWithin at h
  split at h
  · cases r with
    | answer status body delay =>
      simp only [Reply.read] at h
      split at h
      · cases h
      · split at h <;> cases h
    | silence => cases h
    | broken => cases h
  · cases h

private theorem exchange_ne_conflict {σ α : Type} (c : Client) (send : Transport σ)
    (what reason : String) (request : Request) (decoder : Json.Decoder α) (w : σ) :
    (c.exchange send what request decoder w).1 ≠ .error (.conflict reason) :=
  readWithin_ne_conflict _ _ _ _ _

theorem Client.nodes_ne_conflict {σ : Type} (c : Client) (send : Transport σ) (w : σ)
    (reason : String) : (c.nodes send w).1 ≠ .error (.conflict reason) := by
  simp only [Client.nodes, Client.ask]
  generalize Request.build .get nodesTarget none = built
  cases built with
  | error fault =>
    intro h
    cases h
  | ok request => exact exchange_ne_conflict c send _ _ request _ w

end MultiCluster.Kube

namespace MultiCluster.Service

private theorem says_of_isLogged {x : Submission} {flow : Flow Unit (Except Error Detail)}
    {log : List Moment} (h : Work.IsLogged ⟨.register x, flow, log⟩) :
    ∃ j, flow = .ofJob j ∧ (register x).run.Says (log.map (·.exchange)) j :=
  Flow.Logged.ofJob h

/-- All that a registration asks are questions of an enrollment. -/
theorem Work.IsLogged.enrolling {k : Work} {x : Submission} (h : k.IsLogged)
    (hk : k.operation = .register x) :
    ∀ e ∈ k.exchanges, x.IsValid ∧ IsEnrolling x.registration e.call := by
  obtain ⟨o, flow, log⟩ := k
  obtain rfl : o = .register x := hk
  obtain ⟨j, -, hj⟩ := says_of_isLogged h
  intro e he
  rw [register_run] at hj
  cases hv : x.validate with
  | error f =>
    rw [hv] at hj
    obtain ⟨hl, -⟩ := Job.says_done_iff.1 hj
    rw [Work.exchanges, hl] at he
    cases he
  | ok g =>
    rw [hv] at hj
    exact ⟨(Submission.validate_eq_ok_iff.1 hv).1, hj.asks (enroll_asks x) e he⟩

/-- What a registration under way has said is the beginning of what some enrollment says, and all of
it when there is a result. -/
theorem enrolled {x : Submission}
    {flow : Flow Unit (Except Error Detail)} {log : List Moment}
    (h : Work.IsLogged ⟨.register x, flow, log⟩) :
    (∃ e, x.validate = .error e ∧ log = [] ∧ flow.value? = some (.error e)) ∨
      ∃ n : Enrollment, x.IsValid ∧ n.IsPatient ∧
        log.map (·.exchange) <+: n.exchanges x ∧ ∀ result, flow.value? = some result →
          log.map (·.exchange) = n.exchanges x ∧ result = n.result := by
  obtain ⟨j, rfl, hs⟩ := says_of_isLogged h
  cases hv : x.validate with
  | error e =>
    rw [register_run, hv] at hs
    obtain ⟨hl, rfl⟩ := Job.says_done_iff.1 hs
    exact .inl ⟨e, rfl, List.map_eq_nil_iff.1 hl, rfl⟩
  | ok g =>
    have course {es : List Exchange} {result : Except Error Detail}
        (h : (register x).run.Says es (.done result)) : ∃ n : Enrollment,
          x.IsValid ∧ n.IsPatient ∧ es = n.exchanges x ∧ result = n.result := by
      obtain ⟨e, he, -⟩ | hn := says_register h
      · cases hv.symm.trans he
      · exact hn
    cases j with
    | done result =>
      obtain ⟨n, valid, hn, hes, hr⟩ := course hs
      refine .inr ⟨n, valid, hn, hes ▸ List.prefix_refl _, fun result' h' => ⟨hes, ?_⟩⟩
      exact (Option.some_inj.1 h').symm.trans hr
    | ask c next =>
      obtain ⟨es, result, hp, hd⟩ := hs.exists_prefix
      obtain ⟨n, valid, hn, rfl, -⟩ := course hd
      exact .inr ⟨n, valid, hn, hp, fun _ h' => by cases h'⟩

/-- The cluster that is registered. -/
def Enrollment.member? : Enrollment → Option Member
  | stored _ _ _ _ m _ => some m
  | _ => none

theorem registered_attempts (g : Registration) (first : String)
    (taken : List (String × String)) (answer : Except Error Member) :
    (attempts g first taken answer).filterMap (·.registered?) = answer.toOption.toList := by
  induction taken generalizing first with
  | nil => cases answer <;> rfl
  | cons t taken ih => exact ih t.2

theorem registered_enrollment (x : Submission) (n : Enrollment) :
    (n.exchanges x).filterMap (·.registered?) = n.member?.toList := by
  cases n with
  | unreachable first now e => rfl
  | unstored first now c taken e =>
    rw [Enrollment.exchanges, List.filterMap_append, registered_attempts]
    rfl
  | stored first now c taken m roll =>
    have hr : (roll.exchanges m.id).filterMap (·.registered?) = [] := by cases roll <;> rfl
    rw [Enrollment.exchanges, List.filterMap_append, List.filterMap_append, registered_attempts, hr]
    rfl

private theorem attempts_last (g : Registration) (first : String) (taken : List (String × String))
    (answer : Except Error Member) : ∃ front, attempts g first taken answer =
      front ++ [⟨.registry (.create (lastTried first taken) g), answer⟩] := by
  induction taken generalizing first with
  | nil => exact ⟨[], rfl⟩
  | cons t taken ih =>
    obtain ⟨front, h⟩ := ih t.2
    exact ⟨_ :: _ :: front, congrArg (fun es => _ :: _ :: es) h⟩

/-- The nodes are asked for last, after a cluster was registered and given back. -/
theorem nodes_enrollment {x : Submission} {n : Enrollment} {es : List Exchange} {c : Client}
    {answer : Except Error (List Node)} (hp : es <+: n.exchanges x)
    (h : ⟨.nodes c, answer⟩ ∈ es) : ∃ first now k taken m found,
      n = .stored first now k taken m (.called found c answer) ∧ es = n.exchanges x := by
  have not_trial (first now : String) (connected : Except Error Client) :
      (⟨.nodes c, answer⟩ : Exchange) ∉ x.trial first now connected := by
    simp [Submission.trial]
  have not_attempts (first : String) (taken : List (String × String)) (r : Except Error Member) :
      (⟨.nodes c, answer⟩ : Exchange) ∉ attempts x.registration first taken r := by
    induction taken generalizing first with
    | nil => simp [attempts]
    | cons t taken ih => simp [attempts, ih]
  cases n with
  | unreachable first now e => exact absurd (hp.subset h) (not_trial _ _ _)
  | unstored first now k taken e =>
    simpa [Enrollment.exchanges, not_trial, not_attempts] using hp.subset h
  | stored first now k taken m roll =>
    cases roll with
    | lost e =>
      simpa [Enrollment.exchanges, RollCall.exchanges, not_trial, not_attempts] using hp.subset h
    | unreachable found e =>
      simpa [Enrollment.exchanges, RollCall.exchanges, not_trial, not_attempts] using hp.subset h
    | called found c' answer' =>
      let front : List Exchange := x.trial first now (.ok k) ++
        attempts x.registration first taken (.ok m) ++
        [⟨.registry (.get m.id), .ok found⟩, ⟨.connect found, .ok c'⟩]
      have hf : (⟨.nodes c, answer⟩ : Exchange) ∉ front := by
        simp [front, not_trial, not_attempts]
      have he : Enrollment.exchanges x (.stored first now k taken m (.called found c' answer')) =
          front ++ [⟨.nodes c', answer'⟩] := by
        simp [front, Enrollment.exchanges, RollCall.exchanges]
      rw [he] at hp ⊢
      obtain rfl | hp := List.prefix_concat_iff.1 hp
      · obtain h | h := List.mem_append.1 h
        · exact absurd h hf
        · cases List.mem_singleton.1 h
          exact ⟨first, now, k, taken, m, found, rfl, rfl⟩
      · exact absurd (hp.subset h) hf

private theorem exists_of_pair_sublist {log : List Moment} {e f : Exchange}
    (h : [e, f].Sublist (log.map (·.exchange))) :
    ∃ a b, [a, b].Sublist log ∧ a.exchange = e ∧ b.exchange = f := by
  obtain ⟨as, hs, he⟩ := List.sublist_map_iff.1 h
  have hl : as.length = 2 := by simpa using (congrArg List.length he).symm
  obtain ⟨a, b, rfl⟩ := List.length_eq_two.1 hl
  obtain ⟨ha, hb, -⟩ : e = a.exchange ∧ f = b.exchange ∧ True := by simpa using he
  exact ⟨a, b, hs, ha.symm, hb.symm⟩

private theorem result_eq_ok {n : Enrollment} {d : Detail} (h : n.result = .ok d) :
    ∃ first now k taken m found c nodes,
      n = .stored first now k taken m (.called found c (.ok nodes)) ∧ d = ⟨m, nodes⟩ := by
  cases n with
  | unreachable first now e => cases h
  | unstored first now k taken e => cases h
  | stored first now k taken m roll =>
    rcases roll with e | ⟨found, e⟩ | ⟨found, c, e | nodes⟩
    · cases h
    · cases h
    · cases h
    · exact ⟨first, now, k, taken, m, found, c, nodes, rfl, (Except.ok.inj h).symm⟩

private theorem result_eq_conflict {x : Submission} {n : Enrollment} {reason : String}
    (h : n.result = .error (.conflict reason))
    (ho : ∀ e ∈ n.exchanges x, ∀ r, e.error? = some (.conflict r) → isAttempt e = true) :
    ∃ first now k taken, n = .unstored first now k taken (.conflict reason) := by
  cases n with
  | unreachable first now e =>
    obtain rfl := Except.error.inj h
    simp [Enrollment.exchanges, Submission.trial, Exchange.error?, isAttempt] at ho
  | unstored first now k taken e =>
    obtain rfl := Except.error.inj h
    exact ⟨first, now, k, taken, rfl⟩
  | stored first now k taken m roll =>
    have ho (e) (he : e ∈ roll.exchanges m.id) := ho e (List.mem_append_right _ he)
    rcases roll with e | ⟨found, e⟩ | ⟨found, c, e | nodes⟩
    case called.ok => cases h
    all_goals
      obtain rfl := Except.error.inj h
      simp [RollCall.exchanges, Exchange.error?, isAttempt] at ho

namespace Load

variable {s : Store} {x : Load} {k : Work} {m n : Member}

/-- What was registered is there under its id. -/
theorem Sound.held (h : x.Sound s) (hk : k ∈ x.works)
    (hm : m ∈ k.exchanges.filterMap (·.registered?)) :
    ∃ status, x.store.get? m.id = some { m with status } := by
  obtain ⟨e, he, hr⟩ := List.mem_filterMap.1 hm
  exact h.surroundings.members m (List.mem_filterMap.2 ⟨e, h.mem_past hk he, hr⟩)

/-- What was registered is what was submitted. -/
theorem Sound.submitted (h : x.Sound s) (hk : k ∈ x.works) {id : String} {g : Registration}
    (he : ⟨.registry (.create id g), .ok m⟩ ∈ k.exchanges) :
    ∃ now, m = .new id g (some now) := by
  obtain ⟨a, ha, he⟩ := List.mem_map.1 he
  obtain ⟨-, t, hl, -⟩ := h.answered k hk a ha
  rw [he] at hl
  obtain ⟨now, hr, -⟩ | ⟨⟨f, hf⟩, -⟩ := hl.create
  · exact ⟨now, Except.ok.inj hr⟩
  · cases hf

/-- What is given of a cluster after it was registered is what was registered, but for its
status. -/
theorem Sound.recorded (h : x.Sound s) (hk : k ∈ x.works) {id : String} {g : Registration}
    (hs : [⟨.registry (.create id g), .ok m⟩, ⟨.registry (.get m.id), .ok n⟩].Sublist k.exchanges) :
    ∃ status, n = { m with status } := by
  obtain ⟨a, b, hs, ha, hb⟩ := exists_of_pair_sublist hs
  obtain ⟨t, hl, hg⟩ := List.rel_of_pairwise_cons ((h.ordered k hk).sublist hs)
    (List.mem_singleton_self b)
  obtain ⟨-, u, hu, -⟩ := h.answered k hk b (hs.subset (by simp))
  rw [ha] at hl
  rw [hb] at hu
  obtain ⟨status, hst⟩ := hg _ _ (hl.registered rfl).held
  obtain ⟨n', hn, hr⟩ | ⟨f, hf⟩ := hu.get.2
  · obtain rfl := Except.ok.inj hr
    exact ⟨status, Option.some_inj.1 (hn.symm.trans hst)⟩
  · cases hf

/-- While clusters are registered only, all records stay as they are. -/
private theorem kept_of_enrolling {t : Store} {e : Exchange} {g : Registration} {id : String}
    (h : s.Answers e t) (he : IsEnrolling g e.call) (hm : s.get? id = some m) :
    t.get? id = some m := by
  obtain ⟨c, r⟩ := e
  cases c with
  | registry c =>
    cases c with
    | list => exact he.elim
    | get i => exact h.get.1 ▸ hm
    | create i g' =>
      obtain ⟨now, -, hs, rfl⟩ | ⟨-, rfl⟩ := h.create
      · exact (Store.gains_put hs).kept hm
      · exact hm
    | patch i p => exact he.elim
  | _ => exact (h.outside fun _ => Call.noConfusion) ▸ hm

/-- Whether nothing is done but to register clusters. -/
def OnlyRegisters (x : Load) : Prop := ∀ k ∈ x.works, ∃ sub, k.operation = .register sub

private theorem OnlyRegisters.before {y : Load} {e : Event} (h : OnlyRegisters y)
    (hm : x.Moves e y) : OnlyRegisters x := by
  intro k hk
  cases hm with
  | still e => exact h k hk
  | start o => exact h k (List.mem_append_left _ hk)
  | @answer before behind k' works move t ht c flow logged =>
    rw [works, List.mem_append, List.mem_cons] at hk
    obtain hk | rfl | hk := hk
    · exact h k (List.mem_append_left _ hk)
    · exact h (k.heard _ flow) (List.mem_append_right _ (List.mem_cons_self ..))
    · exact h k (List.mem_append_right _ (List.mem_cons_of_mem _ hk))

private theorem kept_moves {y : Load} {e : Event} {id : String} (hm : x.Moves e y)
    (ho : OnlyRegisters y) (h : x.store.get? id = some m) : y.store.get? id = some m := by
  cases hm with
  | still e => exact h
  | start o => exact h
  | @answer before behind k works move t ht c flow logged =>
    obtain ⟨sub, hs⟩ := ho (k.heard _ flow) (List.mem_append_right _ (List.mem_cons_self ..))
    obtain ⟨-, he⟩ := logged.enrolling hs ⟨c, (t.serve c x.surroundings).1⟩
      (by simp [Work.exchanges_heard])
    exact kept_of_enrolling (t.answers c x.surroundings) he h

private theorem OnlyRegisters.before_run (hs : x.Sound s) {events : List Event}
    (h : OnlyRegisters (x.run events)) : OnlyRegisters x := by
  induction events generalizing x with
  | nil => exact h
  | cons e events ih =>
    have hm := moves_step hs.logged e
    exact (ih (hs.moves hm).1 h).before hm

private theorem kept_run {id : String} (hs : x.Sound s) {events : List Event}
    (ho : OnlyRegisters (x.run events)) (h : x.store.get? id = some m) :
    (x.run events).store.get? id = some m := by
  induction events generalizing x with
  | nil => exact h
  | cons e events ih =>
    have hm := moves_step hs.logged e
    have hs' := (hs.moves hm).1
    exact ih hs' ho (kept_moves hm (ho.before_run hs') h)

end Load

/-- What holds of a registration, finished or not, with what it has said, its result if there is one
and the store at some later time. -/
structure Admitted (x : Submission) (said : List Exchange)
    (result? : Option (Except Error Detail)) (later : Store) : Prop where
  /-- At most one cluster is registered. -/
  once : (said.filterMap (·.registered?)).length ≤ 1
  /-- It holds what was submitted, which was valid, and is found under its id ever after, with a
  status of then. -/
  own : ∀ m ∈ said.filterMap (·.registered?), x.IsValid ∧ m.kubeconfig = x.kubeconfig ∧
    m.displayName = Text.trim x.displayName ∧ m.prometheusUrl = Text.trim x.prometheusUrl ∧
    ∃ status, later.get? m.id = some { m with status }
  /-- Nodes are asked for through a client for the cluster that was registered. -/
  listing : ∀ c answer, ⟨.nodes c, answer⟩ ∈ said → ∃ m ∈ said.filterMap (·.registered?),
    ∃ status, ⟨.connect { m with status }, .ok c⟩ ∈ said
  /-- The result is about this cluster, with its nodes. -/
  detail : ∀ d, result? = some (.ok d) → d.member ∈ said.filterMap (·.registered?) ∧
    ∃ c status, ⟨.connect { d.member with status }, .ok c⟩ ∈ said ∧ ⟨.nodes c, .ok d.nodes⟩ ∈ said
  /-- A conflict is reported after five tries and with nothing registered, if nothing but
  registering was answered with a conflict. -/
  conflict : ∀ reason, result? = some (.error (.conflict reason)) →
    (∀ e ∈ said, ∀ r, e.error? = some (.conflict r) → isAttempt e = true) →
    said.filterMap (·.registered?) = [] ∧ said.countP isAttempt = 5

/-- A valid submission is admitted if what it has said is the beginning of an enrollment whose nodes
are those of the cluster that was registered. -/
private theorem admitted_of_enrollment {x : Submission} {n : Enrollment} {said : List Exchange}
    {result? : Option (Except Error Detail)} {later : Store} (valid : x.IsValid)
    (hn : n.IsPatient) (hp : said <+: n.exchanges x)
    (hr : ∀ result, result? = some result → said = n.exchanges x ∧ result = n.result)
    (own : ∀ m ∈ said.filterMap (·.registered?), (∃ id now, m = x.record id now) ∧
      ∃ status, later.get? m.id = some { m with status })
    (recorded : ∀ first now k taken m found c answer,
      n = .stored first now k taken m (.called found c answer) → said = n.exchanges x →
        ∃ status, found = { m with status }) : Admitted x said result? later := by
  have hm : (said.filterMap (·.registered?)).Sublist n.member?.toList := by
    rw [← registered_enrollment x n]
    exact hp.sublist.filterMap _
  have called {first now : String} {k : Client} {taken : List (String × String)} {m found : Member}
      {c : Client} {answer : Except Error (List Node)}
      (hst : n = .stored first now k taken m (.called found c answer)) (he : said = n.exchanges x) :
      m ∈ said.filterMap (·.registered?) ∧ ⟨.nodes c, answer⟩ ∈ said ∧
        ∃ status, ⟨.connect { m with status }, .ok c⟩ ∈ said := by
    obtain ⟨status, hf⟩ := recorded first now k taken m found c answer hst he
    refine ⟨?_, ?_, status, ?_⟩
    · rw [he, registered_enrollment, hst]
      exact List.mem_singleton_self m
    · simp [he, hst, Enrollment.exchanges, RollCall.exchanges]
    · simp [he, hst, hf, Enrollment.exchanges, RollCall.exchanges]
  constructor
  case once =>
    apply Nat.le_trans hm.length_le
    cases n.member? <;> simp
  case own =>
    intro m h
    obtain ⟨⟨id, now, rfl⟩, held⟩ := own m h
    exact ⟨valid, rfl, rfl, rfl, held⟩
  case listing =>
    intro c answer h
    obtain ⟨first, now, k, taken, m, found, hst, he⟩ := nodes_enrollment hp h
    obtain ⟨hmem, -, hc⟩ := called hst he
    exact ⟨m, hmem, hc⟩
  case detail =>
    intro d h
    obtain ⟨he, hres⟩ := hr _ h
    obtain ⟨first, now, k, taken, m, found, c, nodes, hst, rfl⟩ := result_eq_ok hres.symm
    obtain ⟨hmem, hnodes, status, hc⟩ := called hst he
    exact ⟨hmem, c, status, hc, hnodes⟩
  case conflict =>
    intro reason h ho
    obtain ⟨he, hres⟩ := hr _ h
    rw [he] at ho ⊢
    obtain ⟨first, now, c, taken, rfl⟩ := result_eq_conflict hres.symm ho
    have hl : taken.length = 4 := by
      have hlt : ¬ taken.length < 4 := fun hlt => hn.2 hlt reason rfl
      exact Nat.le_antisymm hn.1 (Nat.le_of_not_lt hlt)
    refine ⟨registered_enrollment x _, ?_⟩
    simp [Enrollment.exchanges, countP_trial, countP_attempts, hl]

namespace Load

/-- Every registration of a load that comes about is admitted. -/
theorem Sound.admitted {s : Store} {x : Load} (h : x.Sound s) {sub : Submission}
    {flow : Flow Unit (Except Error Detail)} {log : List Moment}
    (hk : ⟨.register sub, flow, log⟩ ∈ x.works) {later : Store} (hg : x.store.Grows later) :
    Admitted sub (log.map (·.exchange)) flow.value? later := by
  have hl := h.logged _ hk
  obtain ⟨e, hv, rfl, hr⟩ | ⟨n, valid, hn, hp, hr⟩ := enrolled hl
  · obtain ⟨reason, rfl⟩ := Submission.validate_error hv
    rw [hr]
    constructor
    case once => exact Nat.zero_le 1
    case own => simp
    case listing => simp
    case detail => simp
    case conflict => simp
  · refine admitted_of_enrollment valid hn hp hr (fun m hm => ⟨?_, ?_⟩) ?_
    · obtain ⟨e, he, hreg⟩ := List.mem_filterMap.1 hm
      obtain ⟨id, g, rfl⟩ := Exchange.registered?_eq_some_iff.1 hreg
      obtain ⟨-, rfl⟩ := hl.enrolling rfl _ he
      obtain ⟨now, rfl⟩ := h.submitted hk he
      exact ⟨id, now, rfl⟩
    · obtain ⟨status, hs⟩ := h.held hk hm
      obtain ⟨status', hs'⟩ := hg _ _ hs
      exact ⟨status', hs'⟩
    · intro first now k taken m found c answer hst he
      obtain ⟨front, hf⟩ := attempts_last sub.registration first taken (.ok m)
      have created : [⟨.registry (.create (lastTried first taken) sub.registration), .ok m⟩].Sublist
          (sub.trial first now (.ok k) ++ attempts sub.registration first taken (.ok m)) :=
        hf ▸ (List.sublist_append_right front _).trans (List.sublist_append_right _ _)
      have given : [⟨.registry (.get m.id), .ok found⟩].Sublist
          (RollCall.exchanges m.id (.called found c answer)) :=
        List.singleton_sublist.2 (List.mem_cons_self ..)
      have said : log.map (·.exchange) = sub.trial first now (.ok k) ++
          attempts sub.registration first taken (.ok m) ++
            RollCall.exchanges m.id (.called found c answer) := by
        rw [he, hst, Enrollment.exchanges]
      have both := created.append given
      rw [← said] at both
      exact h.recorded hk both

/-- What holds of registrations side by side, at one time and at a later one. -/
structure Admits (x y : Load) : Prop where
  /-- No record is taken away or put in place of another one. -/
  kept : x.store.Grows y.store
  /-- While clusters are registered only, no record is changed at all. -/
  unchanged : y.OnlyRegisters → ∀ id m, x.store.get? id = some m → y.store.get? id = some m
  /-- All ids that are obtained are different. -/
  ids : (((x.works.flatMap (·.exchanges)).filterMap (·.registered?)).map (·.id)).Nodup
  /-- All clients that are had are different. -/
  clients : ((x.works.flatMap (·.exchanges)).filterMap (·.given?)).Nodup
  calls : ∀ sub flow log, ⟨.register sub, flow, log⟩ ∈ x.works →
    Admitted sub (log.map (·.exchange)) flow.value? y.store

/-- Whatever is registered side by side, and in whatever order questions are answered: each
registration obtains an id of its own, keeps it and goes on with its own cluster. -/
theorem run_admits (s : Store) (events later : List Event) :
    ((idle s).run events).Admits (((idle s).run events).run later) := by
  obtain ⟨hx, -⟩ := (sound_idle s).run events
  obtain ⟨-, hg⟩ := hx.run later
  constructor
  case kept => exact hg
  case unchanged =>
    intro ho id m h
    exact kept_run hx ho h
  case ids => exact ((hx.said.filterMap _).map _).nodup_iff.2 hx.surroundings.members_nodup
  case clients => exact (hx.said.filterMap _).nodup_iff.2 hx.surroundings.clients_nodup
  case calls =>
    intro sub flow log hk
    exact hx.admitted hk hg

end Load
end MultiCluster.Service
