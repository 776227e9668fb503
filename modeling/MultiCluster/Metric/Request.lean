import MultiCluster.Error
import MultiCluster.Metric
import MultiCluster.Metric.Series
import MultiCluster.Span
import MultiCluster.Text.Percent
import MultiCluster.Timestamp

/-! Requests for named metrics over a range of time and their results. -/
namespace MultiCluster.Metric

open Text

/-- An expression to be evaluated over a range of time, whose ends are in seconds since 1970. -/
structure RangeQuery where
  expression : String
  start : Int
  stop : Int
  step : Span
  deriving DecidableEq, Repr

/-- The named metrics that are wanted over a range of time, all for one node if one is given. -/
structure Request where
  names : List String
  start : Int
  stop : Int
  step : Span
  node : Option String
  deriving DecidableEq, Repr

namespace Request

/-- Refuses a request without names, one that ends before it starts and one without a step. -/
def validate (r : Request) : Except Error Unit :=
  if r.names.isEmpty then .error (.invalidInput "at least one metric name is required")
  else if r.start > r.stop then
    .error (.invalidInput s!"start {r.start} is after end {r.stop}")
  else if r.step.isZero then .error (.invalidInput "step must be positive")
  else .ok ()

/-- The query for one of the names, if it is known. -/
def query? (r : Request) (name : String) : Option RangeQuery :=
  (expression? name r.node).map (⟨·, r.start, r.stop, r.step⟩)

/-- The names in a list with commas; white space around them and empty ones are dropped. -/
def readNames (text : String) : List String :=
  ((splitAll ',' text.toList).map trimChars).filter (!·.isEmpty) |>.map String.ofList

def readMoment (field : String) : Option String → Except Error Int
  | none => .error (.invalidInput s!"{field} is required")
  | some text =>
    match (readSigned 64 (trimChars text.toList)).filter (Timestamp.hasDate ·) with
    | some seconds => .ok seconds
    | none => .error (.invalidInput s!"{field} must be a unix timestamp, got '{text}'")

/-- The seconds that a unit at the end of a step stands for. -/
def unitSeconds? : Char → Option Nat
  | 's' => some 1
  | 'm' => some 60
  | 'h' => some 3600
  | _ => none

/-- The digits of a step and the seconds of its unit; without a unit, digits count seconds. -/
def splitStep (cs : List Char) : List Char × Nat :=
  match cs.getLast?.bind unitSeconds? with
  | some seconds => (cs.dropLast, seconds)
  | none => (cs, 1)

/-- A number of seconds, minutes or hours. -/
def readStep : Option String → Except Error Span
  | none => .error (.invalidInput "step is required")
  | some text =>
    let (digits, unit) := splitStep (trimChars text.toList)
    match (readUnsigned 64 digits).bind fun n => Word.unsigned? 64 (n * unit) with
    | some seconds => .ok (.ofSeconds seconds)
    | none => .error (.invalidInput s!"invalid step '{text}'")

/-- The request that parameters of an address make for a node. -/
def ofParameters (metrics start stop step : Option String) (node : String) :
    Except Error Request := do
  let request : Request := {
    names := readNames (metrics.getD "")
    start := ← readMoment "start" start
    stop := ← readMoment "end" stop
    step := ← readStep step
    node := some node }
  request.validate
  return request

end Request

/-- What came of one of the names: its series, or why there are none. -/
structure Entry where
  name : String
  result : Except Error (List Series)

namespace Entry

/-- The entry of a name that is in no catalogue. -/
def unknown (name : String) : Entry := ⟨name, .error (.monitoring s!"unknown metric '{name}'")⟩

/-- The entry as reported: it has series, possibly none, and an error only if there is one. -/
def toJson (e : Entry) : Json :=
  match e.result with
  | .ok series =>
    .obj [("metric_name", .str e.name), ("series", .arr (series.map Series.toJson))]
  | .error error =>
    .obj [("metric_name", .str e.name), ("series", .arr []), ("error", .str error.message)]

end Entry
end MultiCluster.Metric
