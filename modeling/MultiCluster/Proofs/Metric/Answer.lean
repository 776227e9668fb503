import MultiCluster.Metric.Endpoint
import MultiCluster.Proofs.Json.Dictionary
import MultiCluster.Proofs.Text.Octets
import MultiCluster.Service.Query

/-! What comes of the answers that a monitoring backend gives to queries. The status in the body
decides, whatever the status of the answer is. -/
namespace MultiCluster.Metric

open Json.Decode (IsDictionary IsListOf IsRecord OrDefault OrNull)

/-- One result of a query as it is written: its labels, and when and what was measured. -/
structure Result where
  labels : List (String × String)
  samples : List (Binary64 × String)

/-- The series of a result. What is no number is left out, and all else stays as and where it is. -/
def Result.series (r : Result) : Series where
  labels := r.labels
  points := r.samples.filterMap fun (timestamp, value) =>
    (Binary64.parse? value).map (⟨timestamp, ·⟩)

/-- An answer to a query as it is written. -/
structure Response where
  status : String
  error : Option String
  results : List Result

namespace Response

/-- What is written as the text of a value. -/
def IsText (j : Json) (s : String) : Prop := j = .str s

inductive IsNumber : Json → Binary64 → Prop where
  | real (x : Binary64) : IsNumber (.real x) x
  | int (i : Int) : IsNumber (.int i) (.ofInt i)

/-- A sample is a number and a text. -/
inductive IsSample : Json → Binary64 × String → Prop where
  | pair {j : Json} {x : Binary64} (value : String) : IsNumber j x →
    IsSample (.arr [j, .str value]) (x, value)

/-- A result without labels or values has none. -/
def IsResult (j : Json) (r : Result) : Prop :=
  ∃ metric values, IsRecord ["metric", "values"] j [metric, values] ∧
    OrDefault (IsDictionary IsText) [] metric r.labels ∧
    OrDefault (IsListOf IsSample) [] values r.samples

def IsData (j : Json) (results : List Result) : Prop :=
  ∃ result, IsRecord ["result"] j [result] ∧ OrDefault (IsListOf IsResult) [] result results

/-- Whether a value is written so. There has to be a status; an error or data that are null are
none, as are those that are absent. -/
def IsResponse (j : Json) (r : Response) : Prop :=
  ∃ error data, IsRecord ["status", "error", "data"] j [some (.str r.status), error, data] ∧
    OrDefault (OrNull IsText) none error r.error ∧
    ∃ results, OrDefault (OrNull IsData) none data results ∧ r.results = results.getD []

/-- Whether a body is an answer to a query. -/
def IsIn (r : Response) (body : List UInt8) : Prop :=
  ∃ j, Json.parseOctets? body = some j ∧ IsResponse j r

/-- The octets of a text hold what the text holds. -/
theorem isIn_utf8Octets_iff {r : Response} {text : String} :
    r.IsIn (Text.utf8Octets text) ↔ ∃ j, Json.parseLenient? text = some j ∧ IsResponse j r := by
  have same : Json.parseOctets? (Text.utf8Octets text) = Json.parseLenient? text := by
    rw [Json.parseOctets?, Text.utf8Octets, Text.decodeOctets_flatMap, List.flatMap_map,
      List.flatMap_singleton', String.ofList_toList]
  rw [IsIn, same]

end Response

namespace Endpoint

open Response

private theorem real_eq_ok_iff {j : Json} {x : Binary64} :
    Json.Decode.real j = .ok x ↔ IsNumber j x := by
  constructor
  · intro h
    cases j with
    | real y =>
      cases h
      exact .real x
    | int i =>
      cases h
      exact .int i
    | _ => cases h
  · rintro (_ | _) <;> rfl

private theorem sampleOf_eq_ok_iff (j : Json) (sample : Binary64 × String) :
    sampleOf j = .ok sample ↔ IsSample j sample := by
  constructor
  · intro h
    unfold sampleOf at h
    split at h
    · obtain ⟨x, hx, h⟩ := bind_eq_ok_iff.1 h
      obtain ⟨value, hv, ⟨⟩⟩ := bind_eq_ok_iff.1 h
      rw [Json.Decode.text_eq_ok_iff.1 hv]
      exact .pair value (real_eq_ok_iff.1 hx)
    · cases h
  · rintro ⟨value, hx⟩
    rw [sampleOf, real_eq_ok_iff.2 hx]
    rfl

private theorem text_eq_ok_iff (j : Json) (s : String) :
    Json.Decode.text j = .ok s ↔ IsText j s := Json.Decode.text_eq_ok_iff

private theorem seriesOf_eq_ok_iff (j : Json) (s : Series) :
    seriesOf j = .ok s ↔ ∃ r : Result, IsResult j r ∧ r.series = s := by
  have fields : seriesOf j = .ok s ↔ ∃ values, IsRecord ["metric", "values"] j values ∧
      ∃ metric samples, values = [metric, samples] ∧ ∃ r : Result, r.series = s ∧
        OrDefault (IsDictionary IsText) [] metric r.labels ∧
        OrDefault (IsListOf IsSample) [] samples r.samples := by
    refine Json.Decode.record_eq_ok_iff ["metric", "values"] (fun f values hn hf => ?_) j
    obtain ⟨metric, samples, rfl⟩ := List.length_eq_two.1 hn
    have labels (ls : List (String × String)) :
        f.withDefault 0 (Json.Decode.dictionary Json.Decode.text) [] = .ok ls ↔
          OrDefault (IsDictionary IsText) [] metric ls := by
      rw [Json.Decode.withDefault_eq_ok_iff (Json.Decode.dictionary_eq_ok_iff text_eq_ok_iff), hf]
      rfl
    have points (xs : List (Binary64 × String)) :
        f.withDefault 1 (Json.Decode.list sampleOf) [] = .ok xs ↔
          OrDefault (IsListOf IsSample) [] samples xs := by
      rw [Json.Decode.withDefault_eq_ok_iff
        (fun j as => Json.Decode.list_eq_ok_iff sampleOf_eq_ok_iff), hf]
      rfl
    constructor
    · intro h
      obtain ⟨ls, hl, h⟩ := bind_eq_ok_iff.1 h
      obtain ⟨xs, hx, ⟨⟩⟩ := bind_eq_ok_iff.1 h
      exact ⟨metric, samples, rfl, ⟨ls, xs⟩, rfl, (labels ls).1 hl, (points xs).1 hx⟩
    · rintro ⟨_, _, ⟨⟩, ⟨ls, xs⟩, rfl, hl, hx⟩
      exact bind_eq_ok_iff.2 ⟨ls, (labels ls).2 hl,
        bind_eq_ok_iff.2 ⟨xs, (points xs).2 hx, rfl⟩⟩
  rw [fields]
  constructor
  · rintro ⟨_, hr, metric, samples, rfl, r, hs, h⟩
    exact ⟨r, ⟨metric, samples, hr, h⟩, hs⟩
  · rintro ⟨r, ⟨metric, samples, hr, h⟩, hs⟩
    exact ⟨_, hr, metric, samples, rfl, r, hs, h⟩

private theorem dataOf_eq_ok_iff (j : Json) (ss : List Series) :
    dataOf j = .ok ss ↔ ∃ rs, IsData j rs ∧ rs.map Result.series = ss := by
  have fields : dataOf j = .ok ss ↔ ∃ values, IsRecord ["result"] j values ∧
      ∃ result, values = [result] ∧ ∃ rs, OrDefault (IsListOf IsResult) [] result rs ∧
        rs.map Result.series = ss := by
    refine Json.Decode.record_eq_ok_iff ["result"] (fun f values hn hf => ?_) j
    obtain ⟨result, rfl⟩ := List.length_eq_one_iff.1 hn
    have found : f.withDefault 0 (Json.Decode.list seriesOf) [] = .ok ss ↔
        ∃ rs, OrDefault (IsListOf IsResult) [] result rs ∧ rs.map Result.series = ss := by
      have list (j : Json) (ss : List Series) : Json.Decode.list seriesOf j = .ok ss ↔
          ∃ rs, IsListOf IsResult j rs ∧ rs.map Result.series = ss :=
        (Json.Decode.list_eq_ok_iff seriesOf_eq_ok_iff).trans Json.Decode.isListOf_map_iff
      rw [Json.Decode.withDefault_eq_ok_iff list, hf]
      exact Json.Decode.orDefault_map_iff (List.map Result.series) []
    rw [found]
    constructor
    · intro h
      exact ⟨result, rfl, h⟩
    · rintro ⟨_, ⟨⟩, h⟩
      exact h
  rw [fields]
  constructor
  · rintro ⟨_, hr, result, rfl, rs, h, hs⟩
    exact ⟨rs, ⟨result, hr, h⟩, hs⟩
  · rintro ⟨rs, ⟨result, hr, h⟩, hs⟩
    exact ⟨_, hr, result, rfl, rs, h, hs⟩

end Endpoint

/-- What a response comes to. -/
def Response.outcome (r : Response) : Except Error (List Series) :=
  if r.status = "success" then .ok (r.results.map Result.series)
  else .error (.monitoring (r.error.getD s!"query status {r.status}"))

namespace Endpoint

open Response

/-- An answer comes to what the response that it is comes to. -/
theorem answerOf_eq_ok_iff (j : Json) (outcome : Except Error (List Series)) :
    answerOf j = .ok outcome ↔ ∃ r, IsResponse j r ∧ r.outcome = outcome := by
  have fields : answerOf j = .ok outcome ↔
      ∃ values, IsRecord ["status", "error", "data"] j values ∧
        ∃ r : Response, r.outcome = outcome ∧ ∃ error data,
          values = [some (.str r.status), error, data] ∧
          OrDefault (OrNull IsText) none error r.error ∧
          ∃ results, OrDefault (OrNull IsData) none data results ∧ r.results = results.getD [] := by
    refine Json.Decode.record_eq_ok_iff ["status", "error", "data"] (fun f values hn hf => ?_) j
    obtain ⟨status, error, data, rfl⟩ := List.length_eq_three.1 hn
    have hs (s : String) : f.required 0 "status" Json.Decode.text = .ok s ↔
        status = some (.str s) := by
      rw [Json.Decode.required_eq_ok_iff text_eq_ok_iff, hf]
      constructor
      · rintro ⟨_, ⟨⟩, ⟨⟩⟩
        rfl
      · rintro rfl
        exact ⟨_, rfl, rfl⟩
    have he (e : Option String) :
        f.withDefault 1 (Json.Decode.nullable Json.Decode.text) none = .ok e ↔
          OrDefault (OrNull IsText) none error e := by
      rw [Json.Decode.withDefault_eq_ok_iff
        (fun j a => Json.Decode.nullable_eq_ok_iff text_eq_ok_iff), hf]
      rfl
    have hd (d : Option (List Series)) :
        f.withDefault 2 (Json.Decode.nullable dataOf) none = .ok d ↔
          ∃ results, OrDefault (OrNull IsData) none data results ∧
            results.map (·.map Result.series) = d := by
      have null (j : Json) (d : Option (List Series)) : Json.Decode.nullable dataOf j = .ok d ↔
          ∃ results, OrNull IsData j results ∧ results.map (·.map Result.series) = d :=
        (Json.Decode.nullable_eq_ok_iff dataOf_eq_ok_iff).trans Json.Decode.orNull_map_iff
      rw [Json.Decode.withDefault_eq_ok_iff null, hf]
      exact Json.Decode.orDefault_map_iff (Option.map (List.map Result.series)) none
    have shown (r : Response) (d : Option (List Series))
        (h : d.getD [] = r.results.map Result.series) :
        (if r.status = "success" then .ok (.ok (d.getD []))
          else .ok (.error (.monitoring (r.error.getD s!"query status {r.status}")))
          : Except Json.Fault (Except Error (List Series))) = .ok r.outcome := by
      rw [Response.outcome, h]
      split <;> rfl
    have mapped (results : Option (List Result)) :
        (results.map (List.map Result.series)).getD [] = (results.getD []).map Result.series := by
      cases results <;> rfl
    constructor
    · intro h
      obtain ⟨s, h₁, h⟩ := bind_eq_ok_iff.1 h
      obtain ⟨e, h₂, h⟩ := bind_eq_ok_iff.1 h
      obtain ⟨d, h₃, h⟩ := bind_eq_ok_iff.1 h
      obtain ⟨results, hr, rfl⟩ := (hd d).1 h₃
      have ho := (shown ⟨s, e, results.getD []⟩ _ (mapped results)).symm.trans h
      exact ⟨⟨s, e, results.getD []⟩, Except.ok.inj ho, error, data, by rw [(hs s).1 h₁],
        (he e).1 h₂, results, hr, rfl⟩
    · rintro ⟨⟨s, e, _⟩, rfl, _, _, ⟨⟩, h₂, results, hr, rfl⟩
      refine bind_eq_ok_iff.2 ⟨s, (hs s).2 rfl, bind_eq_ok_iff.2 ⟨e, (he e).2 h₂,
        bind_eq_ok_iff.2 ⟨_, (hd _).2 ⟨results, hr, rfl⟩, ?_⟩⟩⟩
      exact shown ⟨s, e, results.getD []⟩ _ (mapped results)
  rw [fields]
  constructor
  · rintro ⟨_, hv, r, ho, error, data, rfl, h⟩
    exact ⟨r, ⟨error, data, hv, h⟩, ho⟩
  · rintro ⟨r, ⟨error, data, hv, h⟩, ho⟩
    exact ⟨_, hv, r, ho, error, data, rfl, h⟩

/-- What comes of an answer with a status and a body. -/
structure IsUnderstood (status : Nat) (body : List UInt8) (result : Except Error (List Series)) :
    Prop where
  /-- There are series only where the body reports success. -/
  succeeded_iff : (∃ series, result = .ok series) ↔
    ∃ r : Response, r.IsIn body ∧ r.status = "success"
  /-- There is one for each of its results, in their order. -/
  succeeded : ∀ r : Response, r.IsIn body → r.status = "success" →
    result = .ok (r.results.map Result.series)
  /-- A body that reports anything else gives its error, or tells its status. -/
  failed : ∀ r : Response, r.IsIn body → r.status ≠ "success" →
    result = .error (.monitoring (r.error.getD s!"query status {r.status}"))
  /-- For any other body the status of the answer is told. -/
  undecodable : (∀ r : Response, ¬ r.IsIn body) → ∃ reason : String, result = .error (.monitoring
    s!"undecodable response (HTTP {Http.statusText status}): {reason}")

theorem readAnswer_of_isIn {r : Response} {body : List UInt8} (h : r.IsIn body) (status : Nat) :
    readAnswer status body = r.outcome := by
  obtain ⟨j, hp, hj⟩ := h
  rw [readAnswer, hp, Option.map_some, (answerOf_eq_ok_iff j _).2 ⟨r, hj, rfl⟩]

theorem readAnswer_of_not_isIn {body : List UInt8} (h : ∀ r : Response, ¬ r.IsIn body)
    (status : Nat) : ∃ reason : String, readAnswer status body = .error (.monitoring
      s!"undecodable response (HTTP {Http.statusText status}): {reason}") := by
  unfold readAnswer
  split
  · next result hr =>
    obtain ⟨j, hp, ha⟩ := Option.map_eq_some_iff.1 hr
    obtain ⟨r, hj, -⟩ := (answerOf_eq_ok_iff j result).1 ha
    exact absurd ⟨j, hp, hj⟩ (h r)
  · exact ⟨undecodableText, rfl⟩

theorem readAnswer_isUnderstood (status : Nat) (body : List UInt8) :
    IsUnderstood status body (readAnswer status body) where
  succeeded_iff := by
    constructor
    · rintro ⟨series, h⟩
      by_cases hr : ∃ r : Response, r.IsIn body
      · obtain ⟨r, hr⟩ := hr
        refine ⟨r, hr, Decidable.byContradiction fun hs => ?_⟩
        rw [readAnswer_of_isIn hr, Response.outcome, if_neg hs] at h
        cases h
      · obtain ⟨reason, hu⟩ := readAnswer_of_not_isIn (not_exists.1 hr) status
        cases hu.symm.trans h
    · rintro ⟨r, hr, hs⟩
      exact ⟨_, by rw [readAnswer_of_isIn hr, Response.outcome, if_pos hs]⟩
  succeeded r hr hs := by rw [readAnswer_of_isIn hr, Response.outcome, if_pos hs]
  failed r hr hs := by rw [readAnswer_of_isIn hr, Response.outcome, if_neg hs]
  undecodable h := readAnswer_of_not_isIn h status

/-- A query that is answered comes to what the body of the answer says, whatever the status of the
answer, and the entry of the metric holds that. -/
theorem query_isUnderstood {σ : Type} {e : Endpoint} {get : Fetch σ} {q : RangeQuery}
    {status : Nat} {body : List UInt8} {s s' : σ}
    (h : (fetch get (e.queryAddress q)).run s = (some (status, body), s')) :
    ∃ result, IsUnderstood status body result ∧ (e.query get q).run s = (result, s') ∧
      ∀ (serve : (c : Call) → StateM σ c.Reply) (monitor : Monitor) (request : Request)
        (name : String), request.query? name = some q →
        serve (.query monitor q) = e.query get q →
        ((Service.measure monitor request name).run serve).run s = (⟨name, result⟩, s') := by
  have asked : (e.query get q).run s = (readAnswer status body, s') := by
    rw [query, StateT.run_bind, h]
    rfl
  refine ⟨readAnswer status body, readAnswer_isUnderstood status body, asked, ?_⟩
  intro serve monitor request name hq hs
  have answered : (Service.measure monitor request name).run serve =
      serve (.query monitor q) >>= fun result => pure ⟨name, result⟩ := by
    unfold Service.measure
    rw [hq]
    rfl
  rw [answered, hs, StateT.run_bind, asked]
  rfl

/-- A backend that gives one answer to everything. -/
private def giving (status : Nat) (body : List UInt8) : Fetch Unit := fun _ =>
  return some (status, body)

private def quarterly : RangeQuery := ⟨"up", 0, 60, .ofSeconds 15⟩

private theorem fetch_giving (status : Nat) (body : List UInt8) :
    (fetch (giving status body) (queryAddress ⟨"http://edge:9090"⟩ quarterly)).run () =
      (some (status, body), ()) := by
  have ha : queryAddress ⟨"http://edge:9090"⟩ quarterly =
      "http://edge:9090/api/v1/query_range?query=up&start=0&end=60&step=15" := by
    decide +kernel
  have hp : Url.parse "http://edge:9090/api/v1/query_range?query=up&start=0&end=60&step=15" =
      .ok ⟨"http", "", none, some (.domain "edge"), some 9090, "/api/v1/query_range",
        some "query=up&start=0&end=60&step=15", none⟩ := eq_ok_of_toOption (by decide +kernel)
  rw [ha, fetch_eq hp]
  rfl

private theorem query_giving {status : Nat} {body : List UInt8} {series : List Series}
    (h : (readAnswer status body).toOption = some series) :
    (query ⟨"http://edge:9090"⟩ (giving status body) quarterly).run () = (.ok series, ()) := by
  rw [query, StateT.run_bind, fetch_giving, ← eq_ok_of_toOption h]
  rfl

/-- A sample that is no number is left out of what a backend answers. -/
theorem query_isUnderstood_of_two :
    let body := Text.utf8Octets ("\x7b\"status\":\"success\",\"data\":\x7b\"result\":[" ++
      "\x7b\"metric\":\x7b\"node\":\"a\"\x7d,\"values\":[[0,\"1\"],[60,\"-\"]]\x7d]\x7d\x7d")
    (fetch (giving 200 body) (queryAddress ⟨"http://edge:9090"⟩ quarterly)).run () =
        (some (200, body), ()) ∧
      IsUnderstood 200 body (.ok [⟨[("node", "a")], [⟨.ofInt 0, .ofInt 1⟩]⟩]) := by
  intro body
  have read : (readAnswer 200 body).toOption =
      some [⟨[("node", "a")], [⟨.ofInt 0, .ofInt 1⟩]⟩] := by decide +kernel
  refine ⟨fetch_giving 200 body, ?_⟩
  obtain ⟨result, understood, asked, -⟩ := query_isUnderstood (fetch_giving 200 body)
  obtain rfl := congrArg Prod.fst (asked.symm.trans (query_giving read))
  exact understood

/-- It is not so that only answers with a status of success lead to series. -/
theorem not_query_succeeded_iff : ¬ ∀ (e : Endpoint) (get : Fetch Unit) (q : RangeQuery)
    (status : Nat) (body : List UInt8),
      (fetch get (e.queryAddress q)).run () = (some (status, body), ()) →
      ((∃ series, ((e.query get q).run ()).1 = .ok series) ↔ Http.isSuccess status = true ∧
        ∃ r : Response, r.IsIn body ∧ r.status = "success") := by
  intro h
  have read : (readAnswer 500 (Text.utf8Octets "\x7b\"status\":\"success\"\x7d")).toOption =
      some [] := by decide +kernel
  have hs := (h _ _ _ _ _ (fetch_giving 500 _)).1 ⟨[], congrArg Prod.fst (query_giving read)⟩
  exact absurd hs.1 (by decide)

end Endpoint
end MultiCluster.Metric
