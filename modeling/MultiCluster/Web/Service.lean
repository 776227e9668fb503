import MultiCluster.Json.Parser
import MultiCluster.Json.Texts
import MultiCluster.Service.Listing
import MultiCluster.Service.Query
import MultiCluster.Service.Register
import MultiCluster.Web.Exchange
import MultiCluster.Web.Route

/-! The service over HTTP: what a request leads to and how the result is answered. -/
namespace MultiCluster.Web

/-- A program that answers a request. -/
abbrev Handler := Flow Summary Answer

/-- An answer that needs no questions. -/
def immediately (a : Answer) : Handler := .done a

def refuse (status : Nat) : Handler := immediately (.bare status)

/-- Answers with what an action yields. -/
def answerWith {α : Type} (status : Nat) (encode : α → Json) (a : Action α) : Handler :=
  .map (Answer.ofResult status encode) (.ofJob a.run)

/-- The page that the parameters ask for. -/
def pageOf (r : Request) : Except Unit PageRequest := do
  return ⟨← r.numberParameter "page" PageRequest.defaultPage,
    ← r.numberParameter "page_size" PageRequest.defaultSize⟩

/-- Goes on with parameters that can be read. -/
def withParameters {α : Type} (p : Except Unit α) (next : α → Handler) : Handler :=
  match p with
  | .ok a => next a
  | .error _ => refuse 400

def listClusters (limit : Nat) (r : Request) : Handler :=
  withParameters (pageOf r) fun page =>
    .map (Answer.ofResult 200 (Page.toJson Summary.toJson)) (Service.listing limit page)

/-- The fields of a submission, each with its names. -/
def submissionFields : List (List String) :=
  [["displayname", "display_name"], ["kubeconfig"], ["prometheusurl", "prometheus_url"]]

/-- Reads a submission; only the address of monitoring may be missing. -/
def readSubmission (body : String) : Except Json.Texts.Fault Service.Submission := do
  match ← Json.Texts.read submissionFields body with
  | [some displayName, some kubeconfig, prometheusUrl] =>
    return { displayName, kubeconfig, prometheusUrl := prometheusUrl.getD "" }
  | _ => throw .unexpected

def postCluster (r : Request) : Handler :=
  if !r.hasJson then refuse 415 else
  match readSubmission r.body with
  | .error .malformed => refuse 400
  | .error .unexpected => refuse 422
  | .ok s => answerWith 201 Detail.toJson (Service.register s)

def getMetrics (id node : String) (r : Request) : Handler :=
  let parameters : Except Unit (List (Option String)) :=
    ["metrics", "start", "end", "step"].mapM r.parameter?
  withParameters parameters fun
    | [metrics, start, stop, step] =>
      answerWith 200 (fun entries => .arr (entries.map Metric.Entry.toJson)) do
        let request ← Action.ofExcept (Metric.Request.ofParameters metrics start stop step node)
        Service.metrics id request
    | _ => refuse 400

def listDeployments (id ns : String) (r : Request) : Handler :=
  withParameters (pageOf r) fun page =>
    answerWith 200 (Page.toJson Deployment.toJson) (Service.deployments id ns page)

/-- The action that the parameters ask for. -/
def actionOf (r : Request) : Except Unit Deployment.Action := do
  match ← r.parameter? "action" with
  | none => return .create
  | some name =>
    match Deployment.Action.parse? name with
    | some action => return action
    | none => throw ()

def postDeployment (id ns : String) (r : Request) : Handler :=
  withParameters (actionOf r) fun action =>
    if !r.hasJson then refuse 415 else
    match Json.parseFirst? r.body with
    | none => refuse 400
    | some body =>
      match Deployment.Draft.ofJson body.canonical with
      | .error fault => immediately (.ofProblem (.badRequest s!"Invalid JSON: {fault.message}"))
      | .ok draft => answerWith 200 Deployment.toJson (Service.applyDraft id ns action draft)

/-- Deletes a deployment; success has no content. -/
def deleteDeployment (id ns name : String) : Handler :=
  let answer : Except Error Unit → Answer
    | .ok () => .bare 204
    | .error e => .ofProblem (.ofError e)
  .map answer (.ofJob (Service.deleteDeployment id ns name).run)

/-- The program for a known address and a method that it takes. -/
def handle (limit : Nat) (r : Request) : Route → Handler
  | .health => immediately ⟨200, .text "ok"⟩
  | .clusters => if r.method = "POST" then postCluster r else listClusters limit r
  | .cluster id => answerWith 200 Detail.toJson (Service.detail id)
  | .nodes id => answerWith 200 (fun ns => .arr (ns.map Node.toJson)) (Service.nodes id)
  | .metrics id node => getMetrics id node r
  | .deployments id ns =>
    if r.method = "POST" then postDeployment id ns r else listDeployments id ns r
  | .deployment id ns name =>
    if r.method = "DELETE" then deleteDeployment id ns name
    else answerWith 200 Deployment.toJson (Service.deployment id ns name)

/-- The program for a request. At most `limit` clusters are looked at side by side in a listing. -/
def respond (limit : Nat) (r : Request) : Handler :=
  match Route.ofPath r.path with
  | none => refuse 404
  | some route =>
    if !route.methods.contains r.method then refuse 405 else
    match route.decoded with
    | none => refuse 400
    | some decoded =>
      let program := handle limit r decoded
      if r.method = "HEAD" then .map Answer.withoutBody program else program

end MultiCluster.Web
