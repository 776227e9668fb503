import MultiCluster.Kube.Objects
import MultiCluster.Kube.Reply
import MultiCluster.Registry

/-! A registry whose members are objects of a management cluster. Every call leads to at most one
request and has to be answered within a limit of time. -/
namespace MultiCluster.Registry

open Kube (Request Transport)

def collection : String := "/apis/kubecloud.io/v1alpha1/clusters"

def item (id : String) : String := collection ++ "/" ++ id

/-- The request that a call leads to. There is none for an empty id, except to create, and none for
an id that no target may hold. -/
def Call.request? : Call → Option Request
  | .list => Request.build? .get (collection ++ "?") none
  | .get id => if id.isEmpty then none else Request.build? .get (item id) none
  | .create id r => Request.build? .post (collection ++ "?") (some (.json, r.resource id))
  | .patch id p =>
    if id.isEmpty then none
    else Request.build? .patch (item id ++ "/status?") (some (.mergePatch, p.document))

/-- What a call does, for the report that it took too long. -/
def Call.activity : Call → String
  | .list => "list clusters"
  | .get _ => "get cluster"
  | .create .. => "create cluster"
  | .patch .. => "patch cluster status"

/-- Members in the order of their ids; those with one id keep their order. -/
def sortById (ms : List Member) : List Member := ms.mergeSort fun a b => a.id ≤ b.id

/-- Reads what a successful call is answered with. -/
def Call.decoder : (c : Call) → Json.Decoder c.Answer
  | .list => fun j => (Kube.listOf Member.ofResource j).map sortById
  | .get _ => Member.ofResource
  | .create .. => Member.ofResource
  | .patch .. => fun j => (Member.ofResource j).map fun _ => ()

/-- An error as the registry reports it: that an object does not exist, or exists already, is said
of the member. -/
def Call.explain : Call → Error → Error
  | .get id, e | .patch id _, e => if e.refusalCode? = some 404 then .clusterNotFound id else e
  | .create id _, e => if e.refusalCode? = some 409 then conflict id else e
  | .list, e => e

/-- Answers a call by asking the management cluster. -/
def serveRemote {σ : Type} (limit : Span) (send : Transport σ) (c : Call) : StateM σ c.Reply :=
  match c.request? with
  | none => return .error (.transport Kube.unsendableText)
  | some request => do
    let reply ← send request
    return (reply.readWithin limit c.activity c.decoder).mapError c.explain

end MultiCluster.Registry
