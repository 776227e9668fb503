import MultiCluster.Proofs.Flow.Answered
import MultiCluster.Proofs.Metric.Filter
import MultiCluster.Proofs.Metric.Request
import MultiCluster.Service.Query

/-! Named metrics: when a request for them fails, and what comes of each name. -/
namespace MultiCluster

/-- What is reported of a name by a backend: that it is unknown if it is not in the catalogue, and
otherwise what answers the query for its expression. -/
def Metric.Entry.reported (backend : RangeQuery → Except Error (List Series)) (request : Request)
    (name : String) : Entry :=
  match filled? name request.node with
  | none => ⟨name, .error (.monitoring s!"unknown metric '{name}'")⟩
  | some expression => ⟨name, backend ⟨expression, request.start, request.stop, request.step⟩⟩

/-- The queries for the names in the catalogue, one for each, in the order of the names. -/
def Metric.Request.queries (request : Request) : List RangeQuery :=
  (request.names.filterMap (filled? · request.node)).map
    (⟨·, request.start, request.stop, request.step⟩)

namespace Service

/-- What is done with a valid request for metrics. -/
theorem metrics_run {id : String} {request : Metric.Request} (h : request.validate = .ok ()) :
    (metrics id request).run = .ask (.registry (.get id)) fun
      | .error e => .done (.error e)
      | .ok m => if m.prometheusUrl.isEmpty then
          .done (.error (.unavailable s!"cluster '{id}' has no monitoring endpoint"))
        else .ask (.monitor m.prometheusUrl) fun
          | .error e => .done (.error e)
          | .ok monitor => (measureAll monitor request request.names).bind fun es =>
            .done (.ok es) := by
  simp only [metrics, h]
  apply congrArg (Job.ask (.registry (.get id)))
  funext r
  cases r with
  | error e => rfl
  | ok m =>
    change ExceptT.run (if m.prometheusUrl.isEmpty = true then _ else _) =
      if m.prometheusUrl.isEmpty = true then _ else _
    by_cases he : m.prometheusUrl.isEmpty = true
    · rw [if_pos he, if_pos he]
      rfl
    · rw [if_neg he, if_neg he]
      apply congrArg (Job.ask (.monitor m.prometheusUrl))
      funext r
      cases r <;> rfl

theorem measure_asks {P : Call → Prop} {monitor : Monitor}
    (hP : ∀ range, P (.query monitor range)) (request : Metric.Request) (name : String) :
    (measure monitor request name).Asks P := by
  unfold measure
  cases request.query? name with
  | none => trivial
  | some range => exact ⟨hP range, fun _ => trivial⟩

theorem measureAll_asks {P : Call → Prop} {monitor : Monitor}
    (hP : ∀ range, P (.query monitor range)) (request : Metric.Request) (names : List String) :
    (measureAll monitor request names).Asks P := by
  induction names with
  | nil => trivial
  | cons name names ih =>
    exact (measure_asks hP request name).bind fun e => ih.bind fun es => trivial

/-- What the backend behind a monitor answers, when every question has one answer. -/
def backend (answers : (c : Call) → c.Reply) (monitor : Monitor) (range : Metric.RangeQuery) :
    Except Error (List Series) :=
  answers (.query monitor range)

/-- Queries and what they were answered with. -/
def queried (answers : (c : Call) → c.Reply) (monitor : Monitor)
    (ranges : List Metric.RangeQuery) : List Exchange :=
  ranges.map fun range => ⟨.query monitor range, answers (.query monitor range)⟩

section

variable {answers : (c : Call) → c.Reply} {id : String} {request : Metric.Request}

private theorem measure_run (monitor : Monitor) (name : String) (said : List Exchange) :
    (measure monitor request name).run (Call.answered answers) said =
      (.reported (backend answers monitor) request name,
        said ++ queried answers monitor (request.query? name).toList) := by
  rw [measure, Metric.Entry.reported, Metric.Request.query?, Metric.expression?_eq_filled?]
  cases Metric.filled? name request.node with
  | none => simp [Job.run_answered_done, queried, Metric.Entry.unknown]
  | some expression => rfl

private theorem queries_cons (request : Metric.Request) (name : String) (names : List String) :
    Metric.Request.queries { request with names := name :: names } =
      (request.query? name).toList ++ Metric.Request.queries { request with names } := by
  rw [Metric.Request.queries, Metric.Request.queries, Metric.Request.query?,
    Metric.expression?_eq_filled?]
  cases h : Metric.filled? name request.node <;> simp [h]

private theorem measureAll_run (monitor : Monitor) (names : List String) (said : List Exchange) :
    (measureAll monitor request names).run (Call.answered answers) said =
      (names.map (.reported (backend answers monitor) request),
        said ++ queried answers monitor (Metric.Request.queries { request with names })) := by
  induction names generalizing said with
  | nil => simp [measureAll, Job.run_answered_done, queried, Metric.Request.queries]
  | cons name names ih =>
    have hb : measureAll monitor request (name :: names) =
        (measure monitor request name).bind fun e =>
          (measureAll monitor request names).bind fun es => .done (e :: es) := rfl
    rw [hb, Job.run_answered_bind, measure_run, Job.run_answered_bind, ih,
      Job.run_answered_done, queries_cons]
    simp [queried]

private theorem talk_measures (monitor : Monitor) (names : List String) :
    (names.map (measure monitor request)).flatMap (fun j =>
      (j.run (Call.answered answers) []).2) =
        queried answers monitor (Metric.Request.queries { request with names }) := by
  induction names with
  | nil => simp [queried, Metric.Request.queries]
  | cons name names ih => simp [ih, measure_run, queries_cons, queried]

/-- A request for metrics of the cluster under an id, when every question has one answer: what it
comes to, with all that is said. -/
def metered (answers : (c : Call) → c.Reply) (id : String) (request : Metric.Request) :
    Except Error (List Metric.Entry) × List Exchange :=
  (metrics id request).run.run (Call.answered answers) []

/-- How far a request for metrics gets, what it comes to, and all that is said on the way. -/
structure Stages (answers : (c : Call) → c.Reply) (id : String) (request : Metric.Request) :
    Prop where
  /-- A wrong request fails before anything is asked. -/
  invalid : ∀ e, request.validate = .error e → metered answers id request = (.error e, [])
  /-- Without a record of the cluster nothing else is asked. -/
  lost : request.validate = .ok () → ∀ e, answers (.registry (.get id)) = .error e →
    metered answers id request = (.error e, [⟨.registry (.get id), .error e⟩])
  /-- Nor is it for a cluster that has no monitoring. -/
  unmonitored : request.validate = .ok () → ∀ m, answers (.registry (.get id)) = .ok m →
    m.prometheusUrl = "" → metered answers id request =
      (.error (.unavailable s!"cluster '{id}' has no monitoring endpoint"),
        [⟨.registry (.get id), .ok m⟩])
  /-- No query is sent when monitoring cannot be connected to. -/
  unreachable : request.validate = .ok () → ∀ m, answers (.registry (.get id)) = .ok m →
    m.prometheusUrl ≠ "" → ∀ e, answers (.monitor m.prometheusUrl) = .error e →
      metered answers id request = (.error e,
        [⟨.registry (.get id), .ok m⟩, ⟨.monitor m.prometheusUrl, .error e⟩])
  /-- Otherwise each name has its entry, in the order of the names, and each known one its query. -/
  measured : request.validate = .ok () → ∀ m, answers (.registry (.get id)) = .ok m →
    m.prometheusUrl ≠ "" → ∀ monitor, answers (.monitor m.prometheusUrl) = .ok monitor →
      metered answers id request =
        (.ok (request.names.map (.reported (backend answers monitor) request)),
          [⟨.registry (.get id), .ok m⟩, ⟨.monitor m.prometheusUrl, .ok monitor⟩] ++
            queried answers monitor request.queries)

private theorem stages (answers : (c : Call) → c.Reply) (id : String) (request : Metric.Request) :
    Stages answers id request := by
  have run (h : request.validate = .ok ()) : metered answers id request =
      (match answers (.registry (.get id)) with
        | .error e => .done (.error e)
        | .ok m => if m.prometheusUrl.isEmpty then
            .done (.error (.unavailable s!"cluster '{id}' has no monitoring endpoint"))
          else .ask (.monitor m.prometheusUrl) fun
            | .error e => .done (.error e)
            | .ok monitor => (measureAll monitor request request.names).bind fun es =>
              .done (.ok es) : Job (Except Error (List Metric.Entry))).run (Call.answered answers)
        [⟨.registry (.get id), answers (.registry (.get id))⟩] := by
    rw [metered, metrics_run h]
    rfl
  constructor
  case invalid =>
    intro e he
    simp only [metered, metrics, he]
    rfl
  case lost =>
    intro hv e he
    rw [run hv, he]
    rfl
  case unmonitored =>
    intro hv m hm hu
    rw [run hv, hm]
    simp only [hu]
    rfl
  case unreachable =>
    intro hv m hm hu e he
    rw [run hv, hm]
    simp only [String.isEmpty_iff, hu, if_false]
    rw [Job.run_answered_ask, he]
    rfl
  case measured =>
    intro hv m hm hu monitor hc
    rw [run hv, hm]
    simp only [String.isEmpty_iff, hu, if_false]
    rw [Job.run_answered_ask, hc]
    simp only
    rw [Job.run_answered_bind, measureAll_run, Job.run_answered_done]
    rfl

/-- What a request for metrics of the cluster under an id comes to. -/
structure Measured (answers : (c : Call) → c.Reply) (id : String) (request : Metric.Request) :
    Prop extends Stages answers id request where
  /-- A request is right if it has a name, does not end before it starts and has a step. -/
  right : request.validate = .ok () ↔
    request.names ≠ [] ∧ request.start ≤ request.stop ∧ 0 < request.step.totalNanos
  /-- It fails only on its way to the backend. -/
  fails : (∃ e, (metered answers id request).1 = .error e) ↔
    (∃ e, request.validate = .error e) ∨ (∃ e, answers (.registry (.get id)) = .error e) ∨
      ∃ m, answers (.registry (.get id)) = .ok m ∧
        (m.prometheusUrl = "" ∨ ∃ e, answers (.monitor m.prometheusUrl) = .error e)
  /-- The entry of a name is the same among any other names, whatever is answered for those. -/
  alone : ∀ entries, (metered answers id request).1 = .ok entries →
    ∀ (i : Nat) (name : String), request.names[i]? = some name →
    ∀ (names : List String) (answers' : (c : Call) → c.Reply),
      (∀ c, (∀ monitor range, c = .query monitor range →
        Metric.filled? name request.node = some range.expression) → answers' c = answers c) →
    ∀ j : Nat, names[j]? = some name → ∃ entries',
      (metered answers' id { request with names }).1 = .ok entries' ∧ entries'[j]? = entries[i]?
  /-- Names that are measured side by side have the same entries, and are asked for by the same
  queries in some order. -/
  beside : ∀ (monitor : Monitor) (window : Window) (limit : Nat), 0 < limit →
    ∀ (schedule : Nat → Turn) (w : Surroundings),
      (∀ k, (schedule k).Repeats (fun c => ∃ range, c = .query monitor range) answers) →
      ∃ n said, (Flow.pool window limit (request.names.map (measure monitor request))
          .done).settle.turns schedule n w =
          (.done (request.names.map (.reported (backend answers monitor) request)),
            ⟨w.store, w.past ++ said⟩) ∧
        said.Perm (queried answers monitor request.queries)
  /-- An entry is shown with all its series and no error, or with an error and no series. -/
  shown : ∀ entries, (metered answers id request).1 = .ok entries → ∀ entry ∈ entries,
    (∃ series, entry.result = .ok series ∧ entry.toJson.member? "error" = none ∧
      entry.toJson.member? "series" = some (.arr (series.map Series.toJson))) ∨
    ∃ e, entry.result = .error e ∧ entry.toJson.member? "error" = some (.str e.message) ∧
      entry.toJson.member? "series" = some (.arr [])

private theorem isZero_eq_false_iff {step : Span} : step.isZero = false ↔ 0 < step.totalNanos := by
  rw [← Bool.not_eq_true]
  simp only [Span.isZero, Span.totalNanos, Span.nanosPerSecond, Bool.and_eq_true, beq_iff_eq]
  omega

private theorem validate_names {r : Metric.Request} (h : r.validate = .ok ()) {names : List String}
    (hn : names ≠ []) : Metric.Request.validate { r with names } = .ok () := by
  obtain ⟨-, ends, step⟩ := Metric.Request.validate_eq_ok_iff.1 h
  exact Metric.Request.validate_eq_ok_iff.2 ⟨hn, ends, step⟩

private theorem metered_ok {entries : List Metric.Entry}
    (h : (metered answers id request).1 = .ok entries) : request.validate = .ok () ∧
      ∃ m monitor, answers (.registry (.get id)) = .ok m ∧ m.prometheusUrl ≠ "" ∧
        answers (.monitor m.prometheusUrl) = .ok monitor ∧
        entries = request.names.map (.reported (backend answers monitor) request) := by
  have st := stages answers id request
  cases hv : request.validate with
  | error e => simp [st.invalid e hv] at h
  | ok u =>
    cases hm : answers (.registry (.get id)) with
    | error e => simp [st.lost hv e hm] at h
    | ok m =>
      by_cases hu : m.prometheusUrl = ""
      · simp [st.unmonitored hv m hm hu] at h
      · cases hc : answers (.monitor m.prometheusUrl) with
        | error e => simp [st.unreachable hv m hm hu e hc] at h
        | ok monitor =>
          rw [st.measured hv m hm hu monitor hc] at h
          exact ⟨rfl, m, monitor, rfl, hu, hc, (Except.ok.inj h).symm⟩

private theorem metered_error_iff : (∃ e, (metered answers id request).1 = .error e) ↔
    (∃ e, request.validate = .error e) ∨ (∃ e, answers (.registry (.get id)) = .error e) ∨
      ∃ m, answers (.registry (.get id)) = .ok m ∧
        (m.prometheusUrl = "" ∨ ∃ e, answers (.monitor m.prometheusUrl) = .error e) := by
  have st := stages answers id request
  constructor
  · rintro ⟨e, he⟩
    cases hv : request.validate with
    | error e => exact .inl ⟨e, rfl⟩
    | ok u =>
      cases hm : answers (.registry (.get id)) with
      | error e => exact .inr (.inl ⟨e, rfl⟩)
      | ok m =>
        refine .inr (.inr ⟨m, rfl, ?_⟩)
        by_contra hn
        rw [not_or] at hn
        cases hc : answers (.monitor m.prometheusUrl) with
        | error e => exact hn.2 ⟨e, hc⟩
        | ok monitor => simp [st.measured hv m hm hn.1 monitor hc] at he
  · intro h
    cases hr : (metered answers id request).1 with
    | error e => exact ⟨e, rfl⟩
    | ok entries =>
      obtain ⟨hv, m, monitor, hm, hu, hc, -⟩ := metered_ok hr
      simp [hv, hm, hu, hc] at h

-- Of all the names, an entry depends on its own, and of all the answers on the one to its query.
private theorem reported_congr {answers' : (c : Call) → c.Reply} {monitor : Monitor} {name : String}
    (h : ∀ range, Metric.filled? name request.node = some range.expression →
      answers' (.query monitor range) = answers (.query monitor range)) (names : List String) :
    Metric.Entry.reported (backend answers' monitor) { request with names } name =
      .reported (backend answers monitor) request name := by
  rw [Metric.Entry.reported, Metric.Entry.reported]
  cases hx : Metric.filled? name request.node with
  | none => rfl
  | some expression =>
    simp only [backend]
    rw [h ⟨expression, request.start, request.stop, request.step⟩ hx]

/-- A request for metrics fails only on its way to the backend; behind it, each name has its entry,
as if it were the only one. -/
theorem metrics_measured (answers : (c : Call) → c.Reply) (id : String)
    (request : Metric.Request) : Measured answers id request := by
  have st := stages answers id request
  constructor
  case toStages => exact st
  case right => rw [Metric.Request.validate_eq_ok_iff, isZero_eq_false_iff]
  case fails => exact metered_error_iff
  case alone =>
    intro entries he i name hi names answers' ha j hj
    obtain ⟨hv, m, monitor, hm, hu, hc, rfl⟩ := metered_ok he
    have hn : names ≠ [] := by
      rintro rfl
      simp at hj
    have hm' : answers' (.registry (.get id)) = .ok m := by
      rw [ha _ (by rintro _ _ ⟨⟩), hm]
    have hc' : answers' (.monitor m.prometheusUrl) = .ok monitor := by
      rw [ha _ (by rintro _ _ ⟨⟩), hc]
    have st' := stages answers' id { request with names }
    refine ⟨_, congrArg Prod.fst (st'.measured (validate_names hv hn) m hm' hu monitor hc'), ?_⟩
    rw [List.getElem?_map, List.getElem?_map, hi, hj, Option.map_some, Option.map_some,
      reported_congr fun range hx => ha _ ?_]
    rintro _ _ ⟨⟩
    exact hx
  case beside =>
    intro monitor window limit hl schedule w ht
    obtain ⟨n, said, hn, hp⟩ := Flow.pool_answered hl window
      (request.names.map (measure monitor request)) Flow.done schedule w
      (fun j hj => by
        obtain ⟨name, -, rfl⟩ := List.mem_map.1 hj
        exact measure_asks (fun range => ⟨range, rfl⟩) request name) ht
    refine ⟨n, said, ?_, ?_⟩
    · rw [hn]
      simp [Function.comp_def, measure_run, Flow.settle]
    · rwa [talk_measures] at hp
  case shown =>
    intro entries he entry hentry
    obtain ⟨name, result⟩ := entry
    cases result with
    | ok series => exact .inl ⟨series, rfl, rfl, rfl⟩
    | error e => exact .inr ⟨e, rfl, rfl, rfl⟩

end

end Service
end MultiCluster
