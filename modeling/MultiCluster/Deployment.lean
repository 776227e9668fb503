import MultiCluster.Kube.Shape.Pod

/-! Deployments of a member cluster: what is read of them and what is reported. -/
namespace MultiCluster

/-- What of a deployment is of interest. -/
structure Deployment where
  name : String
  ns : String
  replicas : Int
  ready : Int
  available : Int
  updated : Int
  labels : List (String × String)
  selector : List (String × String)
  strategy : String
  createdAt : Option Timestamp
  deriving DecidableEq, Repr

namespace Deployment

open Kube.Shape (opt always)

def apiVersion : String := "apps/v1"

def kind : String := "Deployment"

/-- The strategy of a deployment that names none. -/
def defaultStrategy : String := "RollingUpdate"

def specShape : Kube.Shape :=
  .object [
    opt "minReadySeconds" .int32, opt "paused" .flag, opt "progressDeadlineSeconds" .int32,
    opt "replicas" .int32, opt "revisionHistoryLimit" .int32, always "selector" .labelSelector,
    opt "strategy" (.object [
      opt "rollingUpdate" (.object [
        opt "maxSurge" .numberOrText, opt "maxUnavailable" .numberOrText]),
      opt "type" .text]),
    always "template" .podTemplate]

def shape : Kube.Shape :=
  .object (Kube.Shape.typed apiVersion kind ++ [
    always "metadata" .metadata,
    opt "spec" specShape,
    opt "status" (.object [
      opt "availableReplicas" .int32, opt "collisionCount" .int32,
      opt "conditions" (.list (.object [
        opt "lastTransitionTime" .moment, opt "lastUpdateTime" .moment, opt "message" .text,
        opt "reason" .text, always "status" .text, always "type" .text])),
      opt "observedGeneration" .int64, opt "readyReplicas" .int32, opt "replicas" .int32,
      opt "unavailableReplicas" .int32, opt "updatedReplicas" .int32])])

/-- A deployment in an object of its shape; what is missing is empty or zero. -/
def ofShaped (j : Json) : Deployment where
  name := j.textAt ["metadata", "name"]
  ns := j.textAt ["metadata", "namespace"]
  replicas := (j.intAt? ["spec", "replicas"]).getD 0
  ready := (j.intAt? ["status", "readyReplicas"]).getD 0
  available := (j.intAt? ["status", "availableReplicas"]).getD 0
  updated := (j.intAt? ["status", "updatedReplicas"]).getD 0
  labels := j.textsAt ["metadata", "labels"]
  selector := j.textsAt ["spec", "selector", "matchLabels"]
  strategy := (j.textAt? ["spec", "strategy", "type"]).getD defaultStrategy
  createdAt := (j.textAt? ["metadata", "creationTimestamp"]).bind Timestamp.parse?

def ofJson : Json.Decoder Deployment := fun j =>
  match shape.read j with
  | some known => .ok (ofShaped known)
  | none => .error (.wrongType j "a deployment")

def toJson (d : Deployment) : Json :=
  .obj [("name", .str d.name), ("namespace", .str d.ns), ("replicas", .int d.replicas),
    ("ready_replicas", .int d.ready), ("available_replicas", .int d.available),
    ("updated_replicas", .int d.updated), ("labels", .ofTexts d.labels),
    ("selector", .ofTexts d.selector), ("strategy", .str d.strategy),
    ("created_at", .ofText? (d.createdAt.map Timestamp.text))]

end Deployment
end MultiCluster
