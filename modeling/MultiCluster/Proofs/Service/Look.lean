import MultiCluster.Proofs.Flow.Alone
import MultiCluster.Service.Observe
import MultiCluster.Sweep

/-! Every way in which an attempt to look at a cluster can go, with all that is said on that way. -/
namespace MultiCluster.Service

/-- How far an attempt to look at a cluster got: its record was not given, there was no client, the
nodes were not listed, or they were. Then each node comes with the answer about its usage. -/
inductive Look where
  | lost (error : Error)
  | unreachable (error : Error)
  | unlisted (client : Client) (error : Error)
  | observed (client : Client) (nodes : List (Node × Except Error Usage))

namespace Look

/-- What is said about a member. The client is one for the record under its id, and all that is
asked behind it goes through this client. -/
def exchanges (m : Member) : Look → List Exchange
  | lost e => [⟨.registry (.get m.id), .error e⟩]
  | unreachable e => [⟨.registry (.get m.id), .ok m⟩, ⟨.connect m, .error e⟩]
  | unlisted c e =>
    [⟨.registry (.get m.id), .ok m⟩, ⟨.connect m, .ok c⟩, ⟨.nodes c, .error e⟩]
  | observed c nodes =>
    [⟨.registry (.get m.id), .ok m⟩, ⟨.connect m, .ok c⟩, ⟨.nodes c, .ok (nodes.map (·.1))⟩]
      ++ nodes.map fun n => ⟨.usage c n.1.name, n.2⟩

/-- The samples of the nodes whose usage could be read. -/
def samples (nodes : List (Node × Except Error Usage)) : List Sample :=
  nodes.filterMap fun n => n.2.toOption.map (.of n.1)

/-- The client and what was seen through it: sums over the samples, the number of nodes listed and
the number of those whose usage could not be read. -/
def seen? : Look → Option (Client × Observation)
  | observed c nodes =>
    some (c, ⟨.ofSamples (samples nodes), nodes.length, nodes.countP (·.2.toOption.isNone)⟩)
  | _ => none

end Look

/-- Looks at the cluster under an id. -/
def attempt (id : String) : Job (Option (Client × Observation)) :=
  .ask (.registry (.get id)) fun
    | .error _ => .done none
    | .ok m => .ask (.connect m) fun
      | .error _ => .done none
      | .ok c => .ask (.nodes c) fun
        | .error _ => .done none
        | .ok nodes =>
          (observeNodes c (.start nodes.length) nodes).bind fun o => .done (some (c, o))

theorem client_run (id : String) : (Action.client id).run = .ask (.registry (.get id)) fun
    | .error e => .done (.error e)
    | .ok m => .ask (.connect m) .done := by
  apply congrArg (Job.ask (.registry (.get id)))
  funext r
  cases r <;> rfl

private theorem observe_run (c : Client) : (observe c).run = .ask (.nodes c) fun
    | .error e => .done (.error e)
    | .ok nodes => (observeNodes c (.start nodes.length) nodes).bind fun o => .done (.ok o) := by
  apply congrArg (Job.ask (.nodes c))
  funext r
  cases r <;> rfl

private theorem attempt_bind {β : Type} (id : String) (f : Option (Client × Observation) → Job β) :
    ((Action.client id).run.bind fun
      | .error _ => f none
      | .ok c => (observe c).run.bind fun
        | .error _ => f none
        | .ok o => f (some (c, o))) = (attempt id).bind f := by
  rw [client_run]
  apply congrArg (Job.ask (.registry (.get id)))
  funext r
  cases r with
  | error e => rfl
  | ok m =>
    apply congrArg (Job.ask (.connect m))
    funext r
    cases r with
    | error e => rfl
    | ok c =>
      simp only [Job.done_bind, observe_run]
      apply congrArg (Job.ask (.nodes c))
      funext r
      cases r with
      | error e => rfl
      | ok nodes => simp only [Job.bind_assoc, Job.done_bind]

/-- What a listing does with a member before its health is stored. -/
theorem summarize_eq (m : Member) : summarize m = (attempt m.id).bind fun
    | none => .done (.abnormal m)
    | some (c, o) => .ask (.version c) fun v =>
      .done (.observed m o.totals o.nodeCount (v.toOption.map (·.gitVersion))) := by
  rw [← attempt_bind]
  apply congrArg (Job.bind _)
  funext r
  cases r with
  | error e => rfl
  | ok c =>
    apply congrArg (Job.bind _)
    funext r
    cases r <;> rfl

/-- What a pass does with a member. -/
theorem visit_eq (m : Member) : Sweep.visit m = (attempt m.id).bind fun
    | none => .done .skipped
    | some (_, o) => .ask (.registry (.patch m.id o.totals.patch)) fun
      | .ok () => .done .patched
      | .error _ => .done .failed := by
  rw [← attempt_bind]
  apply congrArg (Job.bind _)
  funext r
  cases r with
  | error e => rfl
  | ok c =>
    apply congrArg (Job.bind _)
    funext r
    cases r with
    | error e => rfl
    | ok o =>
      apply congrArg (Job.ask (.registry (.patch m.id o.totals.patch)))
      funext r
      cases r <;> rfl

/-- Nothing is asked but the usage of nodes. -/
theorem observeNodes_asks {P : Call → Prop} {c : Client} (hP : ∀ name, P (.usage c name))
    (o : Observation) (nodes : List Node) : (observeNodes c o nodes).Asks P := by
  induction nodes generalizing o with
  | nil => trivial
  | cons n nodes ih => exact ⟨hP n.name, fun r => ih _⟩

/-- Of the registry nothing is asked but the record under the id. -/
theorem attempt_asks {P : Call → Prop} {id : String} (hid : P (.registry (.get id)))
    (hP : ∀ c, (∀ r, c ≠ .registry r) → P c) : (attempt id).Asks P := by
  refine ⟨hid, fun r => ?_⟩
  cases r with
  | error e => trivial
  | ok m =>
    refine ⟨hP _ fun _ => Call.noConfusion, fun r => ?_⟩
    cases r with
    | error e => trivial
    | ok c =>
      refine ⟨hP _ fun _ => Call.noConfusion, fun r => ?_⟩
      cases r with
      | error e => trivial
      | ok nodes =>
        have hu : ∀ name, P (.usage c name) := fun _ => hP _ fun _ => Call.noConfusion
        exact (observeNodes_asks hu _ nodes).bind fun _ => trivial

theorem attempt_isAbout (id : String) : (attempt id).Asks (Call.IsAbout id) := by
  refine attempt_asks (P := Call.IsAbout id) rfl fun c hc => ?_
  cases c with
  | registry r => exact absurd rfl (hc r)
  | _ => trivial

private theorem runs_observeNodes {c : Client} {o b : Observation} {nodes : List Node}
    {s t : Store} {es : List Exchange} (h : (observeNodes c o nodes).Runs s es b t) :
    t = s ∧ ∃ answers : List (Node × Except Error Usage), answers.map (·.1) = nodes ∧
      es = answers.map (fun n => ⟨.usage c n.1.name, n.2⟩) ∧
      b = answers.foldl (fun o n => o.add n.1 n.2) o := by
  induction nodes generalizing o s es with
  | nil =>
    obtain ⟨rfl, rfl, rfl⟩ := Job.runs_done_iff.1 h
    exact ⟨rfl, [], rfl, rfl, rfl⟩
  | cons n nodes ih =>
    obtain ⟨r, v, fs, rfl, answer, rest⟩ := Job.runs_ask_iff.1 h
    obtain rfl : v = s := answer.outside fun _ => Call.noConfusion
    obtain ⟨rfl, answers, rfl, rfl, rfl⟩ := ih rest
    exact ⟨rfl, (n, r) :: answers, rfl, rfl, rfl⟩

/-- What is seen of nodes, one after the other. -/
theorem Look.foldl_add (answers : List (Node × Except Error Usage)) (o : Observation) :
    answers.foldl (fun o n => o.add n.1 n.2) o =
      ⟨(samples answers).foldl Totals.add o.totals, o.nodeCount,
        o.skippedNodes + answers.countP (·.2.toOption.isNone)⟩ := by
  induction answers generalizing o with
  | nil => rfl
  | cons n answers ih =>
    obtain ⟨n, r⟩ := n
    rw [List.foldl_cons, ih]
    cases r with
    | ok u => simp [Observation.add, Look.samples, Except.toOption]
    | error e =>
      simp [Observation.add, Look.samples, Except.toOption]
      omega

/-- Looking at a registered cluster changes nothing. What is said is what some course says, and what
is seen is what that course shows. -/
theorem runs_attempt {m : Member} {s t : Store} {es : List Exchange}
    {seen : Option (Client × Observation)} (h : (attempt m.id).Runs s es seen t)
    (hm : s.get? m.id = some m) :
    t = s ∧ ∃ look : Look, es = look.exchanges m ∧ seen = look.seen? := by
  obtain ⟨given, v, fs, rfl, answer, hg⟩ := Job.runs_ask_iff.1 h
  obtain ⟨rfl, ⟨n, hn, rfl⟩ | ⟨e, rfl⟩⟩ := answer.get
  swap
  · obtain ⟨rfl, rfl, rfl⟩ := Job.runs_done_iff.1 hg
    exact ⟨rfl, .lost e, rfl, rfl⟩
  obtain rfl : m = n := Option.some_inj.1 (hm.symm.trans hn)
  obtain ⟨connected, u, gs, rfl, answer, hc⟩ := Job.runs_ask_iff.1 hg
  obtain rfl : u = v := answer.outside fun _ => Call.noConfusion
  cases connected with
  | error e =>
    obtain ⟨rfl, rfl, rfl⟩ := Job.runs_done_iff.1 hc
    exact ⟨rfl, .unreachable e, rfl, rfl⟩
  | ok c =>
    obtain ⟨listed, v, hs, rfl, answer, hl⟩ := Job.runs_ask_iff.1 hc
    obtain rfl : v = u := answer.outside fun _ => Call.noConfusion
    cases listed with
    | error e =>
      obtain ⟨rfl, rfl, rfl⟩ := Job.runs_done_iff.1 hl
      exact ⟨rfl, .unlisted c e, rfl, rfl⟩
    | ok nodes =>
      obtain ⟨us, ds, o, u, rfl, ho, hd⟩ := Job.runs_bind_iff.1 hl
      obtain ⟨rfl, answers, rfl, rfl, rfl⟩ := runs_observeNodes ho
      obtain ⟨rfl, rfl, rfl⟩ := Job.runs_done_iff.1 hd
      refine ⟨rfl, .observed c answers, by simp [Look.exchanges], ?_⟩
      rw [Look.foldl_add]
      simp [Look.seen?, Observation.start, Totals.ofSamples]

end MultiCluster.Service
