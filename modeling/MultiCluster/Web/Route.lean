import MultiCluster.Text.Percent

/-! Addresses that the service knows. -/
namespace MultiCluster.Web

open Text

/-- What an address names. -/
inductive Route where
  | health
  | clusters
  | cluster (id : String)
  | nodes (id : String)
  | metrics (id node : String)
  | deployments (id ns : String)
  | deployment (id ns name : String)
  deriving DecidableEq, Repr

def segments (path : String) : List String :=
  match path.toList with
  | '/' :: rest => (splitAll '/' rest).map String.ofList
  | cs => [String.ofList cs]

namespace Route

/-- The route of the segments behind the version. Variable ones are given in their encoded form. -/
def ofResource : List String → Option Route
  | ["clusters"] => some clusters
  | ["clusters", id] => some (cluster id)
  | ["clusters", id, "nodes"] => some (nodes id)
  | ["clusters", id, "nodes", node, "metrics"] => some (metrics id node)
  | ["clusters", id, "namespaces", ns, "deployments"] => some (deployments id ns)
  | ["clusters", id, "namespaces", ns, "deployments", name] => some (deployment id ns name)
  | _ => none

/-- The route of all segments. -/
def ofSegments : List String → Option Route
  | ["healthz"] => some health
  | "api" :: "v1alpha1" :: rest => ofResource rest
  | _ => none

/-- The route of a path, its variable parts still encoded. -/
def ofPath (path : String) : Option Route :=
  let parts := segments path
  if parts.any (·.isEmpty) then none else ofSegments parts

/-- The route with its variable parts decoded, if they are texts. -/
def decoded : Route → Option Route
  | health => some health
  | clusters => some clusters
  | cluster id => return cluster (← percentText? id)
  | nodes id => return nodes (← percentText? id)
  | metrics id node => return metrics (← percentText? id) (← percentText? node)
  | deployments id ns => return deployments (← percentText? id) (← percentText? ns)
  | deployment id ns name =>
    return deployment (← percentText? id) (← percentText? ns) (← percentText? name)

def methods : Route → List String
  | clusters | deployments .. => ["GET", "HEAD", "POST"]
  | deployment .. => ["GET", "HEAD", "DELETE"]
  | _ => ["GET", "HEAD"]

end Route
end MultiCluster.Web
