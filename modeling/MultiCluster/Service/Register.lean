import MultiCluster.Job
import MultiCluster.Summary
import MultiCluster.Text.Blank
import MultiCluster.Url

/-! Registering a cluster. -/
namespace MultiCluster.Service

/-- What a client sends to register a cluster. -/
structure Submission where
  displayName : String
  kubeconfig : String
  prometheusUrl : String
  deriving DecidableEq, Repr

/-- Refuses an address of monitoring that is neither empty nor one of the web. -/
def checkEndpoint (endpoint : String) : Except Error Unit :=
  if endpoint.isEmpty then .ok () else
  match Url.parse endpoint with
  | .error fault =>
    .error (.invalidInput s!"invalid prometheusurl '{endpoint}': {fault.message}")
  | .ok url =>
    if url.isWeb then .ok ()
    else .error (.invalidInput s!"prometheusurl '{endpoint}' must be http or https")

/-- What is to be registered, white space around name and address removed. -/
def Submission.validate (s : Submission) : Except Error Registration := do
  let displayName := Text.trim s.displayName
  if displayName.isEmpty then throw (.invalidInput "displayname is required")
  if (Text.trim s.kubeconfig).isEmpty then throw (.invalidInput "kubeconfig is required")
  let prometheusUrl := Text.trim s.prometheusUrl
  checkEndpoint prometheusUrl
  return { kubeconfig := s.kubeconfig, displayName, prometheusUrl }

/-- How often another id is tried when one turns out to be in use. -/
def retries : Nat := 4

/-- Registers under the id, or under a new one as long as the one tried is in use and tries are
left. -/
def store (r : Registration) : Nat → String → Action Member
  | 0, id => ExceptT.mk (Job.question (.registry (.create id r)))
  | left + 1, id => ExceptT.mk do
    match ← Job.question (.registry (.create id r)) with
    | .error (.conflict _) => do
      let id ← Job.question .freshId
      (store r left id).run
    | result => return result

/-- Registers a cluster and lists its nodes. A client must be had for what is to be recorded before
anything is stored; once stored, the cluster stays registered, also if its nodes cannot be listed. -/
def register (s : Submission) : Action Detail := do
  let r ← Action.ofExcept s.validate
  let id ← ExceptT.lift (Job.question .freshId)
  let now ← ExceptT.lift (Job.question .clock)
  let _ ← Action.connect (Member.new id r (some now))
  let m ← store r retries id
  let c ← Action.client m.id
  return ⟨m, ← Action.nodes c⟩

end MultiCluster.Service
