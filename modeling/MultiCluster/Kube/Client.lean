import MultiCluster.Kube.Kubeconfig
import MultiCluster.Kube.Objects
import MultiCluster.Kube.Reply
import MultiCluster.Node
import MultiCluster.Totals

/-! Clients of member clusters: where their requests go and how long they may take. -/
namespace MultiCluster.Kube

/-- A client of one cluster. Every request has to be answered within a limit of time. -/
structure Client where
  cluster : String
  name : String
  address : String
  server : Server
  limit : Span
  deriving DecidableEq, Repr

namespace Client

/-- The client for the server that a kubeconfig leads to. -/
def ofKubeconfig (kubeconfig : String) (context : Option String) (cluster name : String)
    (limit : Span) : Except Error Client :=
  let found : Except Kubeconfig.Fault (String × Server) := do
    let some config := Kubeconfig.ofText? kubeconfig | throw .malformed
    config.serverFor context
  match found with
  | .ok (address, server) => .ok { cluster, name, address, server, limit }
  | .error fault => .error (.invalidCredential cluster fault.message)

def describe (c : Client) : String :=
  s!"K8sClient \x7b cluster_id: {Text.quoted c.cluster}, cluster_name: {Text.quoted c.name}, " ++
  s!"api_server: {Text.quoted c.address} \x7d"

def nodesTarget : String := "/api/v1/nodes?"

def usageTarget (node : String) : String := "/apis/metrics.k8s.io/v1beta1/nodes/" ++ node

def versionTarget : String := "/version"

variable {σ α : Type}

/-- Sends a request and reads the answer; `what` says what is asked for. -/
def exchange (c : Client) (send : Transport σ) (what : String) (request : Request)
    (decoder : Json.Decoder α) : StateM σ (Except Error α) := do
  let reply ← send (request.under (Server.base c.server))
  return reply.readWithin c.limit s!"{what} on cluster {c.cluster}" decoder

/-- Sends a request to a target, or fails with an error for why no request can have it. -/
def ask (c : Client) (send : Transport σ) (what target : String)
    (unsendable : Http.AddressFault → Error) (decoder : Json.Decoder α) :
    StateM σ (Except Error α) :=
  match Request.build .get target none with
  | .error fault => return .error (unsendable fault)
  | .ok request => c.exchange send what request decoder

/-- The error for a target that is no address. -/
def unsendable (fault : Http.AddressFault) : Error := .transport fault.message

def nodeOf : Json.Decoder Node := fun j =>
  match Node.ofJson? j with
  | some n => .ok n
  | none => .error (.wrongType j "a node")

def nodes (c : Client) (send : Transport σ) : StateM σ (Except Error (List Node)) :=
  c.ask send "list nodes" nodesTarget unsendable (listOf nodeOf)

def usage (c : Client) (send : Transport σ) (node : String) : StateM σ (Except Error Usage) := do
  let answer ← c.ask send "node metrics" (usageTarget node) (fun fault => .internal fault.message)
    Json.Decode.any
  return answer.bind (Usage.ofAnswer node)

def version (c : Client) (send : Transport σ) : StateM σ (Except Error Version) :=
  c.ask send "version discovery" versionTarget unsendable versionOf

end Client
end MultiCluster.Kube
