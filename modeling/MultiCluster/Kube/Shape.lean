import MultiCluster.Json.Decode
import MultiCluster.Timestamp

/-! Shapes of API objects: which members are known, what they hold and which are always written.
Reading by a shape checks the known members and drops all others. -/
namespace MultiCluster.Kube

/-- What a value of an API object may be. A field of an object has a name, a mark that says whether
it is written even when it holds nothing, and a shape. -/
inductive Shape where
  | any
  | text
  | flag
  | int32
  | int64
  | moment
  | numberOrText
  | exactly (value : String)
  | list (item : Shape)
  | table (value : Shape)
  | object (fields : List (String × Bool × Shape))

namespace Shape

/-- A field that is left out when it holds nothing. -/
def opt (name : String) (shape : Shape) : String × Bool × Shape := (name, false, shape)

/-- A field that is always written. -/
def always (name : String) (shape : Shape) : String × Bool × Shape := (name, true, shape)

/-- Fields of one shape that are left out when they hold nothing. -/
def opts (shape : Shape) (names : List String) : List (String × Bool × Shape) :=
  names.map (opt · shape)

/-- Fields of one shape that are always written. -/
def alls (shape : Shape) (names : List String) : List (String × Bool × Shape) :=
  names.map (always · shape)

def texts : Shape := table text

/-- Objects in a list. -/
def objects (fields : List (String × Bool × Shape)) : Shape := list (object fields)

def readWord (width : Nat) : Json → Option Json
  | .int i => (Word.signed? width i).map .int
  | _ => none

mutual

/-- What a field that is always written holds when nothing is given. -/
def blank : Shape → Json
  | .any => .null
  | .text | .moment => .str ""
  | .exactly value => .str value
  | .flag => .bool false
  | .int32 | .int64 | .numberOrText => .int 0
  | .list _ => .arr []
  | .table _ => .obj []
  | .object fields => .obj (blankFields fields)

/-- The fields that are always written, each with nothing in it. -/
def blankFields : List (String × Bool × Shape) → List (String × Json)
  | [] => []
  | (name, isAlways, shape) :: rest =>
    if isAlways then (name, blank shape) :: blankFields rest else blankFields rest

end

/-- Whether null is a value like any other rather than the lack of one. -/
def takesNull : Shape → Bool
  | exactly _ => true
  | _ => false

mutual

/-- The known part of a value, if the value has the shape, with moments written as given. -/
def readAs (written : Timestamp → String) : Shape → Json → Option Json
  | .any, j => if j.isReadable then some j else none
  | .text, .str s => some (.str s)
  | .exactly value, .str s => if s = value then some (.str s) else none
  | .flag, .bool b => some (.bool b)
  | .int32, j => readWord 32 j
  | .int64, j => readWord 64 j
  | .moment, .str s => (Timestamp.parse? s).map fun t => .str (written t)
  | .numberOrText, .str s => some (.str s)
  | .numberOrText, j => readWord 32 j
  | .list item, .arr items => (items.mapM (readAs written item)).map .arr
  | .table value, .obj members =>
    let add (sorted : List (String × Json)) (m : String × Json) : Option (List (String × Json)) :=
      (readAs written value m.2).map (Json.putMember m.1 · sorted)
    (members.foldlM add []).map .obj
  | .object fields, .obj members => (readFieldsAs written fields members).map .obj
  | _, _ => none

/-- The known members in the order of the fields. Null counts as absent; of members with one name
all must have the shape and the last one counts. -/
def readFieldsAs (written : Timestamp → String) : List (String × Bool × Shape) →
    List (String × Json) → Option (List (String × Json))
  | [], _ => some []
  | (name, isAlways, shape) :: rest, members => do
    let given := members.filterMap fun m => if m.1 = name then some m.2 else none
    let found ← given.mapM fun j =>
      if j == .null && !shape.takesNull then some none else (readAs written shape j).map some
    let others ← readFieldsAs written rest members
    match found.getLast?.join with
    | some value => return (name, value) :: others
    | none => if isAlways then return (name, blank shape) :: others else return others

end

/-- The known part of a value, if the value has the shape. -/
def read (shape : Shape) (j : Json) : Option Json := readAs Timestamp.text shape j

/-- The known part of a value as it is sent: moments are in whole seconds. -/
def readForSending (shape : Shape) (j : Json) : Option Json := readAs Timestamp.secondsText shape j

/-- The fields that say what kind of object it is; both may be missing. -/
def typed (apiVersion kind : String) : List (String × Bool × Shape) :=
  [opt "apiVersion" (.exactly apiVersion), opt "kind" (.exactly kind)]

def metadata : Shape :=
  object [
    opt "annotations" texts, opt "creationTimestamp" moment,
    opt "deletionGracePeriodSeconds" int64, opt "deletionTimestamp" moment,
    opt "finalizers" (list text), opt "generateName" text, opt "generation" int64,
    opt "labels" texts,
    opt "managedFields" (list (object [
      opt "apiVersion" text, opt "fieldsType" text, opt "fieldsV1" any, opt "manager" text,
      opt "operation" text, opt "subresource" text, opt "time" moment])),
    opt "name" text, opt "namespace" text,
    opt "ownerReferences" (list (object [
      always "apiVersion" text, opt "blockOwnerDeletion" flag, opt "controller" flag,
      always "kind" text, always "name" text, always "uid" text])),
    opt "resourceVersion" text, opt "selfLink" text, opt "uid" text]

def labelSelector : Shape :=
  object [
    opt "matchExpressions" (objects (alls text ["key", "operator"] ++ [opt "values" (list text)])),
    opt "matchLabels" texts]

def listMetadata : Shape :=
  object [opt "continue" text, opt "remainingItemCount" int64, opt "resourceVersion" text,
    opt "selfLink" text]

end Shape
end MultiCluster.Kube

namespace MultiCluster.Json

def at? (path : List String) (j : Json) : Option Json :=
  path.foldlM (fun inner key => inner.member? key) j

def textAt? (path : List String) (j : Json) : Option String := (j.at? path).bind str?

/-- The text at a path, empty if there is none. -/
def textAt (path : List String) (j : Json) : String := (j.textAt? path).getD ""

def intAt? (path : List String) (j : Json) : Option Int :=
  match j.at? path with
  | some (.int i) => some i
  | _ => none

def itemsAt (path : List String) (j : Json) : List Json :=
  ((j.at? path).bind items?).getD []

def textsAt (path : List String) (j : Json) : List (String × String) :=
  (((j.at? path).bind members?).getD []).filterMap fun m => m.2.str?.map (m.1, ·)

end MultiCluster.Json
