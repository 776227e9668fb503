import MultiCluster.Http.Address
import MultiCluster.Json
import MultiCluster.Text.Blank

/-! Requests to an API server. The target of a request is put together as text and then taken apart
as a path and a query. -/
namespace MultiCluster.Kube

/-- What is to be done with a resource. -/
inductive Method where
  | get
  | post
  | patch
  | delete
  deriving DecidableEq, Repr

def Method.text : Method → String
  | get => "GET"
  | post => "POST"
  | patch => "PATCH"
  | delete => "DELETE"

/-- The kinds of content that are sent. -/
inductive Content where
  | json
  | mergePatch
  deriving DecidableEq, Repr

def Content.text : Content → String
  | json => "application/json"
  | mergePatch => "application/merge-patch+json"

/-- A request. The query is as written, without the question mark. -/
structure Request where
  method : Method
  path : String
  query : Option String
  body : Option (Content × Json)

namespace Request

/-- The request whose target is the given text. -/
def build (method : Method) (target : String) (body : Option (Content × Json)) :
    Except Http.AddressFault Request :=
  (Http.Address.parse target).map fun a => ⟨method, a.path, a.target.query, body⟩

/-- The request whose target is the given text, if it is one. -/
def build? (method : Method) (target : String) (body : Option (Content × Json)) : Option Request :=
  (build method target body).toOption

/-- The request to a server whose resources are under a path. -/
def under (r : Request) (base : String) : Request := { r with path := base ++ r.path }

end Request

/-- Where an API server is. Its resources are under the path of the address. -/
abbrev Server := Http.Address

/-- The path in front of the paths of resources, which begin with a slash themselves. -/
def Server.base (s : Server) : String := Text.withoutSlashes s.target.path

end MultiCluster.Kube
