import MultiCluster.Deployment.Draft
import MultiCluster.Job
import MultiCluster.Page
import MultiCluster.Summary

/-! Questions about one cluster that change nothing in the registry. -/
namespace MultiCluster.Service

def detail (id : String) : Action Detail := do
  let m ← Action.get id
  let c ← Action.connect m
  return ⟨m, ← Action.nodes c⟩

def nodes (id : String) : Action (List Node) := do
  Action.nodes (← Action.client id)

/-- What comes of one named metric. -/
def measure (monitor : Monitor) (request : Metric.Request) (name : String) : Job Metric.Entry :=
  match request.query? name with
  | none => .done (.unknown name)
  | some range => do return ⟨name, ← Job.question (.query monitor range)⟩

/-- What comes of all the names, one after the other. -/
def measureAll (monitor : Monitor) (request : Metric.Request) :
    List String → Job (List Metric.Entry)
  | [] => .done []
  | name :: rest => do
    return (← measure monitor request name) :: (← measureAll monitor request rest)

/-- Named metrics of a cluster. Fails if the request is wrong or there is no monitoring to ask; what
fails for one name is reported with that name. -/
def metrics (id : String) (request : Metric.Request) : Action (List Metric.Entry) := do
  Action.ofExcept request.validate
  let m ← Action.get id
  if m.prometheusUrl.isEmpty then
    throw (.unavailable s!"cluster '{id}' has no monitoring endpoint")
  let monitor ← ExceptT.mk (Job.question (.monitor m.prometheusUrl))
  ExceptT.lift (measureAll monitor request request.names)

/-- A client of a cluster to which requests can be sent. -/
def reach (id : String) : Action Client := do
  let c ← Action.client id
  ExceptT.mk (Job.question (.access c))
  return c

/-- Sends a request, if there is one, and reads the answer. -/
def exchange {α : Type} (c : Client) (request : Except Error Kube.Request)
    (decoder : Json.Decoder α) : Action α := do
  let r ← Action.ofExcept request
  let reply ← ExceptT.lift (Job.question (.send c r))
  Action.ofExcept (reply.read decoder)

def deployments (id ns : String) (page : PageRequest) : Action (Page Deployment) := do
  let c ← reach id
  let all ← exchange c (Deployment.listRequest ns) (Kube.listOf Deployment.ofJson)
  return .of all page

def deployment (id ns name : String) : Action Deployment := do
  let c ← reach id
  exchange c (Deployment.getRequest ns name) Deployment.ofJson

/-- Does what is to be done with a draft. -/
def applyDraft (id ns : String) (action : Deployment.Action) (d : Deployment.Draft) :
    Action Deployment := do
  let c ← reach id
  exchange c (Deployment.applyRequest ns d action) Deployment.ofJson

def deleteDeployment (id ns name : String) : Action Unit := do
  let c ← reach id
  let object : Json.Decoder Unit := fun j => (Deployment.ofJson j).map fun _ => ()
  exchange c (Deployment.deleteRequest ns name) (Kube.deletedOf object)

end MultiCluster.Service
