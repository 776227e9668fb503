import MultiCluster.Http.Status
import MultiCluster.Json.Parser
import MultiCluster.Metric.Request
import MultiCluster.Url

/-! Monitoring backends behind an address: how they are probed, asked and understood. -/
namespace MultiCluster.Metric

open Json.Decode (Fields)

/-- Something that fetches addresses: the status and the octets of the body, or nothing if no answer
comes. -/
abbrev Fetch (σ : Type) := Url → StateM σ (Option (Nat × List UInt8))

/-- An address without slashes at its end. -/
structure Endpoint where
  base : String
  deriving DecidableEq, Repr

namespace Endpoint

/-- The diagnostic of a request that is not answered. -/
def silentText : String := "no answer"

/-- The diagnostic of a body that cannot be read. -/
def undecodableText : String := "not a query result"

/-- The endpoint at an address of the web. -/
def ofAddress (address : String) : Except Error Endpoint :=
  match Url.parse address with
  | .error fault =>
    .error (.unavailable s!"invalid monitoring endpoint '{address}': {fault.message}")
  | .ok url =>
    if url.isWeb then .ok ⟨Text.withoutSlashes address⟩
    else .error (.unavailable s!"monitoring endpoint '{address}' must be http or https")

/-- Where an endpoint says whether it is well. -/
def probeAddress (e : Endpoint) : String := e.base ++ "/-/healthy"

/-- Where a query over a range of time is answered. -/
def queryAddress (e : Endpoint) (q : RangeQuery) : String :=
  s!"{e.base}/api/v1/query_range?query={Text.percentEncode q.expression}&start={q.start}" ++
  s!"&end={q.stop}&step={q.step.toSeconds.text}"

variable {σ : Type}

/-- Fetches a written address. -/
def fetch (get : Fetch σ) (address : String) : StateM σ (Option (Nat × List UInt8)) :=
  match Url.parse address with
  | .error _ => return none
  | .ok url => get url

theorem fetch_eq {address : String} {url : Url} (h : Url.parse address = .ok url) (get : Fetch σ) :
    fetch get address = get url := by
  rw [fetch, h]

/-- The endpoint at an address, if it is well. -/
def connect (get : Fetch σ) (address : String) : StateM σ (Except Error Endpoint) :=
  match ofAddress address with
  | .error e => return .error e
  | .ok endpoint => do
    match ← fetch get endpoint.probeAddress with
    | none =>
      return .error (.unavailable s!"prometheus at {address} unreachable: {silentText}")
    | some (status, _) =>
      if Http.isSuccess status then return .ok endpoint
      let text := Http.statusText status
      return .error (.unavailable s!"prometheus at {address} is not healthy: HTTP {text}")

/-- Reads one sample: when and what. -/
def sampleOf : Json.Decoder (Binary64 × String)
  | .arr [timestamp, value] => do
    return (← Json.Decode.real timestamp, ← Json.Decode.text value)
  | j => .error (.wrongType j "a sample")

/-- Reads one series; labels and samples may be missing. -/
def seriesOf : Json.Decoder Series :=
  Json.Decode.record "a series" [["metric"], ["values"]] fun f => do
    let labels ← f.withDefault 0 (Json.Decode.dictionary Json.Decode.text) []
    let samples ← f.withDefault 1 (Json.Decode.list sampleOf) []
    return Series.ofSamples labels samples

/-- Reads the series of an answer. -/
def dataOf : Json.Decoder (List Series) :=
  Json.Decode.record "the data" [["result"]] fun f =>
    f.withDefault 0 (Json.Decode.list seriesOf) []

/-- Reads an answer: the series of one that reports success, the error of any other. -/
def answerOf : Json.Decoder (Except Error (List Series)) :=
  Json.Decode.record "an answer" [["status"], ["error"], ["data"]] fun f => do
    let status ← f.required 0 "status" Json.Decode.text
    let error ← f.withDefault 1 (Json.Decode.nullable Json.Decode.text) none
    let data ← f.withDefault 2 (Json.Decode.nullable dataOf) none
    if status = "success" then return .ok (data.getD [])
    else return .error (.monitoring (error.getD s!"query status {status}"))

/-- The series in an answer. The status of the body decides; that of the answer is only told when
the body cannot be read. -/
def readAnswer (status : Nat) (body : List UInt8) : Except Error (List Series) :=
  match (Json.parseOctets? body).map answerOf with
  | some (.ok result) => result
  | _ =>
    let text := Http.statusText status
    .error (.monitoring s!"undecodable response (HTTP {text}): {undecodableText}")

def query (e : Endpoint) (get : Fetch σ) (q : RangeQuery) :
    StateM σ (Except Error (List Series)) := do
  match ← fetch get (e.queryAddress q) with
  | none => return .error (.monitoring s!"request failed: {silentText}")
  | some (status, body) => return readAnswer status body

end Endpoint
end MultiCluster.Metric
