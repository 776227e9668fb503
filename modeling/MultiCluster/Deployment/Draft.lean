import MultiCluster.Deployment
import MultiCluster.Error
import MultiCluster.Kube.Reply

/-! Requests for deployments and the requests to an API server that they lead to. -/
namespace MultiCluster.Deployment

open Json.Decode (Fields)

/-- What is to be done with a draft: create the deployment, only try to, or change the number of
its replicas. -/
inductive Action where
  | create
  | rehearse
  | scale
  deriving DecidableEq, Repr

def Action.parse? : String → Option Action
  | "create" => some .create
  | "dry-run" => some .rehearse
  | "scale" => some .scale
  | _ => none

/-- What a client asks for. The description is any JSON value until it is needed. -/
structure Draft where
  name : String
  labels : List (String × String)
  spec : Option Json
  replicas : Option Int

namespace Draft

/-- How diagnostics call a draft. -/
def title : String := "struct DeploymentRequest"

/-- Reads a draft. Of several faults in an object the one under the first key in byte order counts
and a missing name comes last; in an array the first position counts. -/
def ofJson : Json.Decoder Draft :=
  Json.Decode.record title [["name"], ["labels"], ["spec"], ["replicas"]] fun f => do
    let labels := f.withDefault 1 (Json.Decode.dictionary Json.Decode.text) []
    let spec : Option Json := (f.value? 2).filter fun j => !(j == .null)
    let replicas := f.withDefault 3 (Json.Decode.nullable Json.Decode.int32) none
    if f.position.isSome then
      let name ← f.required 0 "name" Json.Decode.text
      return { name, labels := ← labels, spec, replicas := ← replicas }
    else
      let labels ← labels
      let name? ← f.optional 0 Json.Decode.text
      let replicas ← replicas
      return { name := ← f.present 0 "name" name?, labels, spec, replicas }

end Draft

def collection (ns : String) : String := s!"/apis/apps/v1/namespaces/{ns}/deployments"

def item (ns name : String) : String := collection ns ++ "/" ++ name

/-- A request that must be sendable. -/
def sendable (r : Option Kube.Request) : Except Error Kube.Request :=
  match r with
  | some request => .ok request
  | none => .error (.transport Kube.unsendableText)

/-- A request about one deployment; it must have a name. -/
def named (name : String) (r : Option Kube.Request) : Except Error Kube.Request :=
  if name.isEmpty then .error (.transport "a name is required") else sendable r

def listRequest (ns : String) : Except Error Kube.Request :=
  sendable (Kube.Request.build? .get (collection ns ++ "?") none)

def getRequest (ns name : String) : Except Error Kube.Request :=
  named name (Kube.Request.build? .get (item ns name) none)

def deleteRequest (ns name : String) : Except Error Kube.Request :=
  named name (Kube.Request.build? .delete (item ns name ++ "?") (some (.json, .obj [])))

/-- The patch that changes the number of replicas and nothing else. -/
def scalePatch (replicas : Int) : Except Error Json :=
  if replicas < 0 then
    .error (.invalidInput s!"replicas must not be negative, got {replicas}")
  else .ok (.obj [("spec", .obj [("replicas", .int replicas)])])

/-- The object that a draft describes. The draft's number of replicas wins over the one in its
description. -/
def object (ns : String) (d : Draft) : Except Error Json := do
  if d.name.isEmpty then throw (.invalidInput "deployment name is required")
  let some spec := d.spec | throw (.invalidInput "deployment spec is required")
  let some (.obj known) := specShape.readForSending spec
    | throw (.invalidInput "invalid deployment spec: unexpected value")
  let spec := match d.replicas with
    | some n => Json.putMember "replicas" (.int n) (known.filter (·.1 != "replicas"))
    | none => known
  let labels := if d.labels.isEmpty then [] else [("labels", Json.ofTexts d.labels)]
  return .obj [("apiVersion", .str apiVersion), ("kind", .str kind),
    ("metadata", .obj ([("name", .str d.name), ("namespace", .str ns)] ++ labels)),
    ("spec", .obj spec)]

/-- The request that creates the deployment of a draft, or only tries to. -/
def createRequest (rehearsal : Bool) (ns : String) (d : Draft) : Except Error Kube.Request := do
  let body ← object ns d
  let parameters := if rehearsal then "&dryRun=All" else ""
  sendable (Kube.Request.build? .post (collection ns ++ "?" ++ parameters) (some (.json, body)))

def scaleRequest (ns : String) (d : Draft) : Except Error Kube.Request := do
  let some replicas := d.replicas | throw (.invalidInput "scale requires a replicas count")
  let patch ← scalePatch replicas
  named d.name (Kube.Request.build? .patch (item ns d.name ++ "?") (some (.mergePatch, patch)))

/-- The request that an action on a draft leads to. -/
def applyRequest (ns : String) (d : Draft) : Action → Except Error Kube.Request
  | .create => createRequest false ns d
  | .rehearse => createRequest true ns d
  | .scale => scaleRequest ns d

end MultiCluster.Deployment
