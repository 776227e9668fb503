import MultiCluster.Json
import MultiCluster.Text.Quoted

/-! What can go wrong while serving a request, and how each cause is answered over HTTP. -/
namespace MultiCluster

open Text

/-- What an API server answers to a request that it refuses. -/
structure Refusal where
  status : String
  message : String
  reason : String
  code : Nat
  deriving DecidableEq, Repr

def Refusal.describe (r : Refusal) : String :=
  s!"ErrorResponse \x7b status: {quoted r.status}, message: {quoted r.message}, " ++
  s!"reason: {quoted r.reason}, code: {r.code} \x7d"

/-- Causes of failure, each with what it is about. -/
inductive Error where
  /-- No cluster is registered under the id. -/
  | clusterNotFound (id : String)
  /-- The stored kubeconfig of the cluster gives no client. -/
  | invalidCredential (cluster reason : String)
  /-- The request itself is wrong. -/
  | invalidInput (reason : String)
  /-- A member cluster or a monitoring endpoint does not answer, or not in time. -/
  | unavailable (reason : String)
  /-- Some clusters of a pass were left out. -/
  | partialFailure (failed total : Nat)
  /-- What is to be created exists. -/
  | conflict (reason : String)
  /-- One named metric could not be queried. -/
  | monitoring (reason : String)
  /-- An API server refused a request. -/
  | refused (refusal : Refusal)
  /-- An API server could not be asked, or its answer not be read. -/
  | transport (reason : String)
  /-- A fault of the service. -/
  | internal (reason : String)
  deriving DecidableEq, Repr

namespace Error

def message : Error → String
  | clusterNotFound id => s!"Cluster not found: {id}"
  | invalidCredential cluster reason => s!"Invalid credential for cluster {cluster}: {reason}"
  | invalidInput reason => s!"Invalid input: {reason}"
  | unavailable reason => s!"Upstream unavailable: {reason}"
  | partialFailure failed total =>
    s!"Partial failure: {failed} of {total} clusters not reconciled"
  | conflict reason => s!"Conflict: {reason}"
  | monitoring reason => s!"Monitoring query failed: {reason}"
  | refused r => s!"Kubernetes API error: ApiError: {r.message}: {r.reason} ({r.describe})"
  | transport reason => s!"Kubernetes API error: {reason}"
  | internal reason => s!"Internal error: {reason}"

/-- The status that an API server gave, if it is one that refused. -/
def refusalCode? : Error → Option Nat
  | refused r => some r.code
  | _ => none

end Error

/-- The body of an HTTP answer that reports a failure. -/
structure Problem where
  status : Nat
  code : String
  message : String
  details : Option String
  deriving DecidableEq, Repr

namespace Problem

/-- A failure of the service, whose cause goes into the details. -/
def internal (details : String) : Problem :=
  ⟨500, "INTERNAL_ERROR", "An internal server error occurred", some details⟩

def notFound (message : String) : Problem := ⟨404, "NOT_FOUND", message, none⟩

/-- The member cluster does not accept the stored credentials. -/
def unauthenticated : Problem :=
  ⟨401, "AUTHENTICATION_FAILED", "The cluster rejected the stored credentials", none⟩

def forbidden (message : String) : Problem := ⟨403, "FORBIDDEN", message, none⟩

def badRequest (message : String) : Problem := ⟨400, "BAD_REQUEST", message, none⟩

def conflict (message : String) : Problem := ⟨409, "CONFLICT", message, none⟩

/-- The request has the right form but is not acceptable. -/
def invalid (message : String) : Problem := ⟨422, "VALIDATION_ERROR", message, none⟩

/-- Something that the service depends on does not answer. -/
def unavailable (message : String) : Problem := ⟨503, "SERVICE_UNAVAILABLE", message, none⟩

def rateLimited (message : String) : Problem := ⟨429, "RATE_LIMITED", message, none⟩

def ofRefusal (r : Refusal) : Problem :=
  match r.code with
  | 401 => unauthenticated
  | 403 => forbidden r.message
  | 404 => notFound r.message
  | 409 => conflict r.message
  | 400 | 422 => invalid r.message
  | 429 => rateLimited r.message
  | 503 => unavailable r.message
  | _ => internal s!"Kubernetes error: {r.message}"

def ofError (e : Error) : Problem :=
  match e with
  | .clusterNotFound id => notFound s!"Kubernetes cluster '{id}' not found"
  | .invalidCredential cluster reason =>
    invalid s!"Kubeconfig for cluster '{cluster}' is invalid: {reason}"
  | .invalidInput reason => badRequest reason
  | .unavailable reason => unavailable reason
  | .conflict reason => conflict reason
  | .refused r => ofRefusal r
  | .transport reason => unavailable s!"Kubernetes API unreachable: {reason}"
  | .partialFailure .. => internal e.message
  | .monitoring reason => unavailable reason
  | .internal reason => internal reason

def toJson (p : Problem) : Json :=
  .obj ([("status", .int p.status), ("error", .str p.code), ("message", .str p.message)]
    ++ (p.details.map fun d => ("details", Json.str d)).toList)

end Problem
end MultiCluster
