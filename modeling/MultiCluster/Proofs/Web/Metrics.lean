import MultiCluster.Proofs.Json.Record
import MultiCluster.Proofs.Metric.Request
import MultiCluster.Web.Service

/-! Metrics over HTTP: which requests for them go on to the cluster, and how others are refused. -/
namespace MultiCluster.Web

/-- A request for the metrics of a node, or for the head of the answer alone. -/
structure Request.AsksMetrics (r : Request) (id node : String) : Prop where
  route : (Route.ofPath r.path).bind Route.decoded = some (.metrics id node)
  method : r.method = "GET" ∨ r.method = "HEAD"

/-- Whether the parameters make a request for metrics. None of them may be given twice. -/
def Request.MakesMetrics (r : Request) (node : String) (request : Metric.Request) : Prop :=
  ∃ metrics start stop step, r.parameter? "metrics" = .ok metrics ∧
    r.parameter? "start" = .ok start ∧ r.parameter? "end" = .ok stop ∧
    r.parameter? "step" = .ok step ∧ request.IsRead metrics start stop step node

/-- The answer without what a request does not ask for. -/
def Request.shown (r : Request) (program : Handler) : Handler :=
  if r.method = "HEAD" then .map Answer.withoutBody program else program

/-- What is done with metrics that are asked for in the right way. -/
def measured (id : String) (request : Metric.Request) : Handler :=
  answerWith 200 (fun entries => .arr (entries.map Metric.Entry.toJson)) (Service.metrics id request)

/-- A refusal without any question. -/
def Refuses (program : Handler) : Prop := ∃ a : Answer, program = .done a ∧ a.status = 400

theorem Refuses.shown {program : Handler} (h : Refuses program) (r : Request) :
    Refuses (r.shown program) := by
  obtain ⟨a, rfl, ha⟩ := h
  rw [Request.shown]
  split
  · exact ⟨a.withoutBody, rfl, ha⟩
  · exact ⟨a, rfl, ha⟩

theorem respond_of_asksMetrics (limit : Nat) {r : Request} {id node : String}
    (h : r.AsksMetrics id node) : respond limit r = r.shown (getMetrics id node r) := by
  obtain ⟨route, hr, hd⟩ := Option.bind_eq_some_iff.1 h.route
  have taken : route.methods.contains r.method = true := by
    obtain hm | hm := h.method <;> rw [hm] <;> cases route <;> rfl
  rw [respond, hr]
  simp only [taken, hd]
  rfl

theorem mapM_parameters_eq_ok_iff {r : Request} {a b c d : String} {ps : List (Option String)} :
    [a, b, c, d].mapM r.parameter? = .ok ps ↔ ∃ p q s t, ps = [p, q, s, t] ∧
      r.parameter? a = .ok p ∧ r.parameter? b = .ok q ∧ r.parameter? c = .ok s ∧
      r.parameter? d = .ok t := by
  rw [mapM_eq_ok_iff_forall₂]
  constructor
  · rintro (_ | ⟨ha, _ | ⟨hb, _ | ⟨hc, _ | ⟨hd, ⟨⟩⟩⟩⟩⟩)
    exact ⟨_, _, _, _, rfl, ha, hb, hc, hd⟩
  · rintro ⟨p, q, s, t, rfl, ha, hb, hc, hd⟩
    exact .cons ha (.cons hb (.cons hc (.cons hd .nil)))

theorem getMetrics_of_makesMetrics (id : String) {node : String} {r : Request}
    {request : Metric.Request} (h : r.MakesMetrics node request) :
    getMetrics id node r = measured id request := by
  obtain ⟨metrics, start, stop, step, hm, hs, he, ht, hr⟩ := h
  have given : ["metrics", "start", "end", "step"].mapM r.parameter? =
      .ok [metrics, start, stop, step] :=
    mapM_parameters_eq_ok_iff.2 ⟨metrics, start, stop, step, rfl, hm, hs, he, ht⟩
  simp only [getMetrics, given, withParameters, Metric.Request.ofParameters_eq_ok_iff.2 hr]
  rfl

theorem refuses_getMetrics (id : String) {node : String} {r : Request}
    (h : ∀ request, ¬ r.MakesMetrics node request) : Refuses (getMetrics id node r) := by
  cases given : ["metrics", "start", "end", "step"].mapM r.parameter? with
  | error e =>
    refine ⟨.bare 400, ?_, rfl⟩
    simp only [getMetrics, given, withParameters]
    rfl
  | ok parameters =>
    obtain ⟨metrics, start, stop, step, rfl, hm, hs, he, ht⟩ :=
      mapM_parameters_eq_ok_iff.1 given
    obtain ⟨reason, hr⟩ := Metric.Request.exists_refusal fun request hr =>
      h request ⟨metrics, start, stop, step, hm, hs, he, ht, hr⟩
    refine ⟨.ofProblem (.ofError (.invalidInput reason)), ?_, rfl⟩
    simp only [getMetrics, given, withParameters, hr]
    rfl

/-- How metrics are asked for: which parameters make a request, and what comes of it over HTTP. -/
structure MetricsRead : Prop where
  /-- The parameters make the request that they describe, and no other. -/
  reads : ∀ metrics start stop step node r,
    Metric.Request.ofParameters metrics start stop step node = .ok r ↔
      r.IsRead metrics start stop step node
  valid : ∀ metrics start stop step node, ∀ r : Metric.Request,
    r.IsRead metrics start stop step node → r.validate = .ok ()
  refused : ∀ metrics start stop step node,
    (∀ r : Metric.Request, ¬ r.IsRead metrics start stop step node) →
      ∃ reason, Metric.Request.ofParameters metrics start stop step node =
        .error (.invalidInput reason)
  /-- The unit of a step is never cut off within a character. -/
  cut : ∀ cs, Metric.Request.cutStep? cs = some (Metric.Request.splitStep cs)
  answered : ∀ limit (r : Request) id node, r.AsksMetrics id node →
    ∀ request, r.MakesMetrics node request → respond limit r = r.shown (measured id request)
  unanswered : ∀ limit (r : Request) id node, r.AsksMetrics id node →
    (∀ request, ¬ r.MakesMetrics node request) → Refuses (respond limit r)

theorem metrics_read : MetricsRead := by
  constructor
  case reads =>
    intro metrics start stop step node r
    exact Metric.Request.ofParameters_eq_ok_iff
  case valid =>
    intro metrics start stop step node r h
    exact h.valid
  case refused =>
    intro metrics start stop step node h
    exact Metric.Request.exists_refusal h
  case cut => exact Metric.Request.cutStep?_eq
  case answered =>
    intro limit r id node ha request h
    rw [respond_of_asksMetrics limit ha, getMetrics_of_makesMetrics id h]
  case unanswered =>
    intro limit r id node ha h
    rw [respond_of_asksMetrics limit ha]
    exact (refuses_getMetrics id h).shown r

end MultiCluster.Web
