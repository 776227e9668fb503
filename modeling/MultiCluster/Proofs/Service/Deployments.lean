import MultiCluster.Proofs.Deployment
import MultiCluster.Proofs.Flow.Answered
import MultiCluster.Proofs.Service.Contact

/-! Deployments of a cluster: what comes of the operations on them, and which requests are sent. -/
namespace MultiCluster.Service

variable (answers : (c : Call) → c.Reply)

/-- A client to which requests can be sent, by the answers on the way to it. -/
def reached (id : String) : Except Error Client := do
  let m ← answers (.registry (.get id))
  let c ← answers (.connect m)
  answers (.access c)
  return c

theorem result_reach (id : String) : (reach id).result answers = reached answers id := by
  simp only [reach, Action.client, Action.result_bind, bind_assoc]
  rfl

theorem result_exchange {α : Type} (c : Client) (r : Except Error Kube.Request)
    (decoder : Json.Decoder α) : (exchange c r decoder).result answers =
      r >>= fun request => Kube.Reply.read decoder (answers (.send c request)) := by
  simp only [exchange, Action.result_bind, Action.result_ofExcept]
  rfl

/-- All deployments of a namespace, by the answers on the way to them. -/
def allDeployments (id ns : String) : Except Error (List Deployment) := do
  let c ← reached answers id
  let request ← Deployment.listRequest ns
  Kube.Reply.read (Kube.listOf Deployment.ofJson) (answers (.send c request))

theorem result_deployments (id ns : String) (request : PageRequest) :
    (deployments id ns request).result answers = (allDeployments answers id ns).map fun all =>
      ⟨request.slice all, all.length, request⟩ := by
  have paged : (deployments id ns request).result answers =
      allDeployments answers id ns >>= fun all => .ok (.of all request) := by
    simp only [deployments, allDeployments, Action.result_bind, result_reach, result_exchange,
      bind_assoc]
    rfl
  rw [paged]
  cases allDeployments answers id ns <;> rfl

/-- The requests that were sent, each with the client that it went through. -/
def sent (es : List Exchange) : List (Client × Kube.Request) :=
  es.filterMap fun e =>
    match e.call with
    | .send c r => some (c, r)
    | _ => none

theorem sent_append (es fs : List Exchange) : sent (es ++ fs) = sent es ++ sent fs :=
  List.filterMap_append

/-- Nothing is sent on the way to a client. -/
theorem sent_reach (id : String) : sent ((reach id).said answers) = [] := by
  have asks : (reach id).run.Asks fun x => ∀ c r, x ≠ .send c r := by
    simp only [reach, Action.client, bind_assoc]
    rw [get_run]
    refine ⟨fun _ _ => Call.noConfusion, fun given => ?_⟩
    cases given with
    | error e => trivial
    | ok m =>
      refine ⟨fun _ _ => Call.noConfusion, fun connected => ?_⟩
      cases connected with
      | error e => trivial
      | ok c =>
        refine ⟨fun _ _ => Call.noConfusion, fun granted => ?_⟩
        cases granted <;> trivial
  refine List.filterMap_eq_nil_iff.2 fun e he => ?_
  have other := asks.answered e he
  cases hc : e.call with
  | send c r => exact absurd hc (other c r)
  | _ => rfl

theorem sent_exchange {α : Type} (c : Client) (r : Except Error Kube.Request)
    (decoder : Json.Decoder α) : sent ((exchange c r decoder).said answers) =
      match r with
      | .ok request => [(c, request)]
      | .error _ => [] := by
  cases r <;> rfl

theorem read_ne_invalidInput {α : Type} (decoder : Json.Decoder α) (reply : Kube.Reply)
    (m : String) : reply.read decoder ≠ .error (.invalidInput m) := by
  unfold Kube.Reply.read
  split
  · split
    · simp
    · split <;> simp
  · simp
  · simp

/-- What comes of a draft, by the answers on the way. -/
def applied (id ns : String) (action : Deployment.Action) (d : Deployment.Draft) :
    Except Error Deployment := do
  let c ← reached answers id
  let request ← Deployment.applyRequest ns d action
  Kube.Reply.read Deployment.ofJson (answers (.send c request))

theorem result_applyDraft (id ns : String) (action : Deployment.Action) (d : Deployment.Draft) :
    (applyDraft id ns action d).result answers = applied answers id ns action d := by
  simp only [applyDraft, applied, Action.result_bind, result_reach, result_exchange]

theorem sent_applyDraft (id ns : String) (action : Deployment.Action) (d : Deployment.Draft) :
    sent ((applyDraft id ns action d).said answers) =
      match reached answers id, Deployment.applyRequest ns d action with
      | .ok c, .ok request => [(c, request)]
      | _, _ => [] := by
  rw [applyDraft, Action.said_bind, result_reach, sent_append, sent_reach, List.nil_append]
  cases reached answers id with
  | error e => rfl
  | ok c =>
    change sent ((exchange c _ _).said answers) = _
    rw [sent_exchange]
    cases Deployment.applyRequest ns d action <;> rfl

/-- How a draft is acted upon, by the answers on the way: what comes of it, and which requests are
sent. -/
structure Acts (answers : (c : Call) → c.Reply) (id ns : String) (action : Deployment.Action)
    (d : Deployment.Draft) : Prop extends d.IsJudged ns where
  result : (applyDraft id ns action d).result answers = applied answers id ns action d
  /-- At most one request is sent, through the client. -/
  sent : sent ((applyDraft id ns action d).said answers) =
    match reached answers id, Deployment.applyRequest ns d action with
    | .ok c, .ok request => [(c, request)]
    | _, _ => []
  /-- Nothing is sent for a draft that is refused, which is the fault of the client. -/
  refused : ∀ m, (applyDraft id ns action d).result answers = .error (.invalidInput m) →
    Service.sent ((applyDraft id ns action d).said answers) = [] ∧
      (Problem.ofError (.invalidInput m)).status = 400

theorem applyDraft_acts (answers : (c : Call) → c.Reply) (id ns : String)
    (action : Deployment.Action) (d : Deployment.Draft) : Acts answers id ns action d := by
  constructor
  case toIsJudged => exact d.isJudged ns
  case result => exact result_applyDraft answers id ns action d
  case sent => exact sent_applyDraft answers id ns action d
  case refused =>
    intro m hm
    refine ⟨?_, rfl⟩
    rw [result_applyDraft, applied] at hm
    rw [sent_applyDraft]
    cases hr : reached answers id with
    | error e => rfl
    | ok c =>
      cases ha : Deployment.applyRequest ns d action with
      | error e => rfl
      | ok request =>
        rw [hr, ha] at hm
        exact absurd hm (read_ne_invalidInput _ _ m)

/-- Of a cluster that is reached, a creation with a negative number of replicas is not refused, nor is
a change of that number without a name, and a trial in a namespace with a number sign is sent as a
creation in earnest. -/
theorem applyDraft_not_alike :
    (¬ ∀ answers id ns d c, reached answers id = .ok c →
      (∃ n < 0, Deployment.Draft.replicas d = some n) →
        ∃ m, (applyDraft id ns .create d).result answers = .error (.invalidInput m)) ∧
    (¬ ∀ answers id ns d c, reached answers id = .ok c → Deployment.Draft.name d = "" →
      ∃ m, (applyDraft id ns .scale d).result answers = .error (.invalidInput m)) ∧
    ¬ ∀ ns d r s, Deployment.applyRequest ns d .create = .ok r →
      Deployment.applyRequest ns d .rehearse = .ok s → s.query ≠ r.query := by
  let answers (c : Call) : c.Reply :=
    (Turn.plain.answer c ⟨[.new "edge" ⟨"config", "edge", ""⟩ none], List.pairwise_singleton _ _⟩).1
  have reach : reached answers "edge" = .ok ⟨0⟩ := rfl
  let draft : Deployment.Draft := ⟨"web", [], some (.obj []), some (-4)⟩
  refine ⟨fun h => ?_, fun h => ?_, fun h => ?_⟩
  · obtain ⟨m, hm⟩ := h answers "edge" "default" draft ⟨0⟩ reach ⟨-4, by decide, rfl⟩
    obtain ⟨r, hr⟩ : ∃ r, Deployment.applyRequest "default" draft .create = .ok r := ⟨_, rfl⟩
    rw [result_applyDraft, applied, reach, hr] at hm
    exact read_ne_invalidInput Deployment.ofJson (answers (.send ⟨0⟩ r)) m hm
  · obtain ⟨m, hm⟩ := h answers "edge" "default" ⟨"", [], none, some 2⟩ ⟨0⟩ reach rfl
    have unnamed : Deployment.applyRequest "default" ⟨"", [], none, some 2⟩ .scale =
        .error (.transport "a name is required") := rfl
    rw [result_applyDraft, applied, reach, unnamed] at hm
    cases hm
  · obtain ⟨r, hr⟩ :
        ∃ r, Deployment.applyRequest "default/deployments#" draft .create = .ok r := ⟨_, rfl⟩
    obtain ⟨s, hs⟩ :
        ∃ s, Deployment.applyRequest "default/deployments#" draft .rehearse = .ok s := ⟨_, rfl⟩
    have query := ((draft.isJudged "default/deployments#").rehearsed r s hr hs).2.2.2
    rw [if_pos (by decide)] at query
    exact h _ draft r s hr hs query

end MultiCluster.Service
