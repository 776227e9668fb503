import MultiCluster.Kube.Shape
import MultiCluster.Status
import MultiCluster.Text.Quoted

/-! Member clusters: what is registered of each and how it is kept as an object of the management
cluster. The kubeconfig is a secret: it is in no text or JSON form of a member. -/
namespace MultiCluster

/-- What a cluster is registered with. -/
structure Registration where
  kubeconfig : String
  displayName : String
  prometheusUrl : String
  deriving DecidableEq, Repr

namespace Registration

/-- Reads the description part of a stored object; what is not given is empty. -/
def ofJson : Json.Decoder Registration :=
  Json.Decode.record "a cluster description"
    [["kubeconfig"], ["displayname"], ["prometheusurl"]] fun f => do
    return ⟨← f.withDefault 0 Json.Decode.text "", ← f.withDefault 1 Json.Decode.text "",
      ← f.withDefault 2 Json.Decode.text ""⟩

def toJson (r : Registration) : Json :=
  .ofTexts [("kubeconfig", r.kubeconfig), ("displayname", r.displayName),
    ("prometheusurl", r.prometheusUrl)]

def apiVersion : String := "kubecloud.io/v1alpha1"

def resource (r : Registration) (id : String) : Json :=
  .obj [("apiVersion", .str apiVersion), ("kind", .str "Cluster"),
    ("metadata", .ofTexts [("name", id)]), ("spec", r.toJson)]

end Registration

/-- An entry of the registry. -/
structure Member where
  id : String
  displayName : String
  kubeconfig : String
  prometheusUrl : String
  status : Status
  createdAt : Option String
  deriving DecidableEq, Repr

namespace Member

/-- A cluster that nobody has looked at, with the time of its registration if it is registered. -/
def new (id : String) (r : Registration) (createdAt : Option String) : Member where
  id
  displayName := r.displayName
  kubeconfig := r.kubeconfig
  prometheusUrl := r.prometheusUrl
  status := .initial
  createdAt

def registration (m : Member) : Registration := ⟨m.kubeconfig, m.displayName, m.prometheusUrl⟩

/-- Reads the metadata of a stored object: its name and the time of its creation. -/
def metadataOf : Json.Decoder (String × Option String) := fun j =>
  match Kube.Shape.metadata.read j with
  | some m =>
    let created := (m.textAt? ["creationTimestamp"]).bind Timestamp.parse?
    .ok (m.textAt ["name"], created.map Timestamp.text)
  | none => .error (.wrongType j "struct ObjectMeta")

/-- Reads a member from a stored object. -/
def ofResource : Json.Decoder Member :=
  Json.Decode.record "struct Cluster" [["metadata"], ["spec"], ["status"]] fun f => do
    let (id, createdAt) ← f.required 0 "metadata" metadataOf
    let r ← f.required 1 "spec" Registration.ofJson
    let status ← f.nullable 2 "status" Status.ofJson
    return {
      id
      displayName := r.displayName
      kubeconfig := r.kubeconfig
      prometheusUrl := r.prometheusUrl
      status := status.getD .initial
      createdAt }

/-- The members of the JSON form. -/
def jsonMembers (m : Member) : List (String × Json) :=
  [("id", .str m.id), ("display_name", .str m.displayName),
    ("prometheus_url", .str m.prometheusUrl), ("status", m.status.toJson), ("created_at", .ofText? m.createdAt)]

def toJson (m : Member) : Json := .obj m.jsonMembers

def describe (m : Member) : String :=
  let s := m.status
  s!"ClusterRecord \x7b id: {Text.quoted m.id}, display_name: {Text.quoted m.displayName}, " ++
  s!"kubeconfig: \"<redacted>\", prometheus_url: {Text.quoted m.prometheusUrl}, " ++
  s!"status: ClusterStatus \x7b cpu_capacity: {s.cpuCapacity}, " ++
  s!"memory_capacity: {s.memoryCapacity}, cpu_usage: {s.cpuUsage}, " ++
  s!"memory_usage: {s.memoryUsage}, health: {s.health.text} \x7d \x7d"

end Member
end MultiCluster
