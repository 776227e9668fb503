import MultiCluster.Kube.Shape

/-! Nodes of a member cluster: what is read of them and what is reported. -/
namespace MultiCluster

/-- One of the conditions that a node reports about itself. -/
structure NodeCondition where
  kind : String
  status : String
  reason : Option String
  message : Option String
  deriving DecidableEq, Repr

/-- One of the addresses of a node. -/
structure NodeAddress where
  kind : String
  address : String
  deriving DecidableEq, Repr

/-- What of a node is of interest. Quantities are kept as written. -/
structure Node where
  name : String
  labels : List (String × String)
  createdAt : Option Timestamp
  capacity : List (String × String)
  allocatable : List (String × String)
  conditions : List NodeCondition
  addresses : List NodeAddress
  osImage : String
  kernelVersion : String
  containerRuntime : String
  kubeletVersion : String
  deriving DecidableEq, Repr

namespace Node

open Kube.Shape (opt always)

def cpu : String := "cpu"

def memory : String := "memory"

/-- The shape of a reference to settings of a node. -/
def settingsShape : Kube.Shape :=
  .object [opt "configMap" (.object [
    always "kubeletConfigKey" .text, always "name" .text, always "namespace" .text,
    opt "resourceVersion" .text, opt "uid" .text])]

def statusShape : Kube.Shape :=
  .object [
    opt "addresses" (.list (.object [always "address" .text, always "type" .text])),
    opt "allocatable" .texts, opt "capacity" .texts,
    opt "conditions" (.list (.object [
      opt "lastHeartbeatTime" .moment, opt "lastTransitionTime" .moment, opt "message" .text,
      opt "reason" .text, always "status" .text, always "type" .text])),
    opt "config" (.object [
      opt "active" settingsShape, opt "assigned" settingsShape, opt "error" .text,
      opt "lastKnownGood" settingsShape]),
    opt "daemonEndpoints" (.object [
      opt "kubeletEndpoint" (.object [always "Port" .int32])]),
    opt "features" (.object [opt "supplementalGroupsPolicy" .flag]),
    opt "images" (.list (.object [opt "names" (.list .text), opt "sizeBytes" .int64])),
    opt "nodeInfo" (.object [
      always "architecture" .text, always "bootID" .text,
      always "containerRuntimeVersion" .text, always "kernelVersion" .text,
      always "kubeProxyVersion" .text, always "kubeletVersion" .text,
      always "machineID" .text, always "operatingSystem" .text, always "osImage" .text,
      always "systemUUID" .text]),
    opt "phase" .text,
    opt "runtimeHandlers" (.list (.object [
      opt "features" (.object [opt "recursiveReadOnlyMounts" .flag, opt "userNamespaces" .flag]),
      opt "name" .text])),
    opt "volumesAttached" (.list (.object [always "devicePath" .text, always "name" .text])),
    opt "volumesInUse" (.list .text)]

def shape : Kube.Shape :=
  .object (Kube.Shape.typed "v1" "Node" ++ [
    always "metadata" .metadata,
    opt "spec" (.object [
      opt "configSource" settingsShape, opt "externalID" .text, opt "podCIDR" .text,
      opt "podCIDRs" (.list .text), opt "providerID" .text,
      opt "taints" (.list (.object [
        always "effect" .text, always "key" .text, opt "timeAdded" .moment,
        opt "value" .text])),
      opt "unschedulable" .flag]),
    opt "status" statusShape])

/-- A condition in an object of its shape. -/
def conditionOf (j : Json) : NodeCondition :=
  ⟨j.textAt ["type"], j.textAt ["status"], j.textAt? ["reason"], j.textAt? ["message"]⟩

/-- A node in an object of its shape; what is missing is empty. -/
def ofShaped (j : Json) : Node where
  name := j.textAt ["metadata", "name"]
  labels := j.textsAt ["metadata", "labels"]
  createdAt := (j.textAt? ["metadata", "creationTimestamp"]).bind Timestamp.parse?
  capacity := j.textsAt ["status", "capacity"]
  allocatable := j.textsAt ["status", "allocatable"]
  conditions := (j.itemsAt ["status", "conditions"]).map conditionOf
  addresses := (j.itemsAt ["status", "addresses"]).map fun a =>
    ⟨a.textAt ["type"], a.textAt ["address"]⟩
  osImage := j.textAt ["status", "nodeInfo", "osImage"]
  kernelVersion := j.textAt ["status", "nodeInfo", "kernelVersion"]
  containerRuntime := j.textAt ["status", "nodeInfo", "containerRuntimeVersion"]
  kubeletVersion := j.textAt ["status", "nodeInfo", "kubeletVersion"]

def ofJson? (j : Json) : Option Node := (shape.read j).map ofShaped

/-- A node is ready when one of its conditions says so. -/
def isReady (n : Node) : Bool := n.conditions.any fun c => c.kind == "Ready" && c.status == "True"

/-- The labels that give a role to a node start with this. -/
def roleLabel : String := "node-role.kubernetes.io/"

/-- The text behind the given beginning. -/
def textAfter? (beginning s : String) : Option String :=
  if beginning.toList.isPrefixOf s.toList then
    some (String.ofList (s.toList.drop beginning.toList.length))
  else none

/-- The roles that the labels give to the node, in the order of the labels. -/
def roles (n : Node) : List String := n.labels.filterMap fun l => textAfter? roleLabel l.1

/-- The first address of a kind. -/
def address? (n : Node) (kind : String) : Option String :=
  (n.addresses.find? fun a => a.kind == kind).map (·.address)

def conditionToJson (c : NodeCondition) : Json :=
  .obj [("condition_type", .str c.kind), ("status", .str c.status),
    ("reason", .ofText? c.reason), ("message", .ofText? c.message)]

def toJson (n : Node) : Json :=
  let amount (of : List (String × String)) (resource : String) : Json :=
    .str ((of.lookup resource).getD "")
  .obj [("name", .str n.name), ("status", .str (if n.isReady then "ready" else "notready")),
    ("roles", .arr (n.roles.map .str)),
    ("internal_ip", .ofText? (n.address? "InternalIP")),
    ("external_ip", .ofText? (n.address? "ExternalIP")),
    ("os_image", .str n.osImage), ("kernel_version", .str n.kernelVersion),
    ("container_runtime", .str n.containerRuntime), ("kubelet_version", .str n.kubeletVersion),
    ("capacity_cpu", amount n.capacity cpu), ("capacity_memory", amount n.capacity memory),
    ("allocatable_cpu", amount n.allocatable cpu),
    ("allocatable_memory", amount n.allocatable memory),
    ("conditions", .arr (n.conditions.map conditionToJson)),
    ("created_at", .ofText? (n.createdAt.map Timestamp.text))]

end Node
end MultiCluster
