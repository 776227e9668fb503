import MultiCluster.Error
import MultiCluster.Http.Status
import MultiCluster.Json.Decode
import MultiCluster.Json.Parser
import MultiCluster.Kube.Request
import MultiCluster.Span
import MultiCluster.Text.Quoted

/-! What comes back from an API server, and how it is read: as the object asked for, as a refusal,
or not at all. -/
namespace MultiCluster.Kube

open Json (Decoder)

/-- What comes of a request: an answer after some milliseconds, no answer ever, or a broken
connection. -/
inductive Reply where
  | answer (status : Nat) (body : String) (delay : Nat)
  | silence
  | broken
  deriving DecidableEq, Repr

/-- Reads the report of a refusal; it must name its status and its code. -/
def refusalOf : Decoder Refusal :=
  Json.Decode.record "a refusal" [["status"], ["message"], ["reason"], ["code"]] fun f => do
    return {
      status := ← f.required 0 "status" Json.Decode.text
      message := ← f.withDefault 1 Json.Decode.text ""
      reason := ← f.withDefault 2 Json.Decode.text ""
      code := ← f.required 3 "code" (Json.Decode.nat 16) }

/-- The refusal in an answer with an error status; one that cannot be read is made up from the
status and the quoted text. -/
def refusal (status : Nat) (body : String) : Refusal :=
  match (Json.parseLenient? body).map refusalOf with
  | some (.ok r) => r
  | _ => ⟨Http.statusText status, Text.quoted body, "Failed to parse error data", status⟩

/-- The diagnostic of a connection that breaks. -/
def brokenText : String := "connection failed"

/-- The diagnostic of an answer that cannot be read. -/
def undecodableText : String := "undecodable answer"

/-- The diagnostic of a request that cannot be sent. -/
def unsendableText : String := "invalid uri character"

namespace Reply

/-- The object in an answer. -/
def read {α : Type} (decoder : Decoder α) : Reply → Except Error α
  | .answer status body _ =>
    if Http.isError status then .error (.refused (refusal status body)) else
    match (Json.parseLenient? body).map decoder with
    | some (.ok a) => .ok a
    | _ => .error (.transport undecodableText)
  | .silence | .broken => .error (.transport brokenText)

/-- Milliseconds until timers with this limit run out: they run out at whole milliseconds. -/
def timerTicks (limit : Span) : Nat := (limit.totalNanos + 999999) / 1000000

/-- Whether the reply comes before the limit; one that comes when the timer runs out still counts,
but with no time at all nothing does. -/
def isInTime (limit : Span) : Reply → Bool
  | .answer _ _ delay => !limit.isZero && delay ≤ timerTicks limit
  | .silence => false
  | .broken => !limit.isZero

/-- The object in an answer that comes in time. -/
def readWithin {α : Type} (limit : Span) (what : String) (decoder : Decoder α) (r : Reply) :
    Except Error α :=
  if r.isInTime limit then r.read decoder
  else .error (.unavailable s!"{what} timed out after {limit.text}")

end Reply

/-- Something that answers requests, with a state of its own. -/
abbrev Transport (σ : Type) := Request → StateM σ Reply

end MultiCluster.Kube
