import MultiCluster.Kube.Shape

/-! Readers for the objects that an API server answers with. -/
namespace MultiCluster.Kube

open Json (Decoder Fault)

/-- Reads objects of a shape. -/
def shaped (shape : Shape) : Decoder Json := fun j =>
  match shape.read j with
  | some known => .ok known
  | none => .error (.wrongType j "an object of the expected shape")

/-- Reads a list of objects. The member with the items must be there; null is a list of none. One
item that cannot be read spoils the list, and so does an unreadable part of another member. -/
def listOf {α : Type} (item : Decoder α) : Decoder (List α) := fun j =>
  match j with
  | .obj members => do
    let others := members.filter fun m => m.1 ≠ "metadata" && m.1 ≠ "items"
    let _ ← others.mapM fun m => Json.Decode.any m.2
    let read := Json.Decode.record "a list" [["metadata"], ["items"]] fun f => do
      let _ ← f.optional 0 (shaped Shape.listMetadata)
      f.required 1 "items" (Json.Decode.nullable (Json.Decode.list item))
    return (← read j).getD []
  | _ => .error (.wrongType j "a list")

def causeOf : Decoder Unit :=
  Json.Decode.record "a cause" [["reason"], ["message"], ["field"]] fun f => do
    let _ ← f.optional 0 Json.Decode.text
    let _ ← f.optional 1 Json.Decode.text
    let _ ← f.optional 2 Json.Decode.text
    return ()

/-- Reads what a report is about. -/
def detailsOf : Decoder Unit :=
  let names := [["name"], ["group"], ["kind"], ["uid"], ["causes"], ["retryAfterSeconds"]]
  Json.Decode.record "details" names fun f => do
    let _ ← f.optional 0 Json.Decode.text
    let _ ← f.optional 1 Json.Decode.text
    let _ ← f.optional 2 Json.Decode.text
    let _ ← f.optional 3 Json.Decode.text
    let _ ← f.optional 4 (Json.Decode.list causeOf)
    let _ ← f.optional 5 (Json.Decode.nat 32)
    return ()

def reportOf : Decoder Unit :=
  let names := [["status"], ["code"], ["message"], ["reason"], ["details"]]
  let outcome := Json.Decode.named [("Success", ()), ("Failure", ())] "a status"
  Json.Decode.record "a report" names fun f => do
    let _ ← f.optional 0 (Json.Decode.nullable outcome)
    let _ ← f.optional 1 (Json.Decode.nat 16)
    let _ ← f.optional 2 Json.Decode.text
    let _ ← f.optional 3 Json.Decode.text
    let _ ← f.optional 4 (Json.Decode.nullable detailsOf)
    return ()

/-- Reads the answer to a deletion: a report, which says so itself, or the deleted object. -/
def deletedOf (object : Decoder Unit) : Decoder Unit := fun j =>
  if !j.isReadable then .error (.wrongType j "a value")
  else if j.textAt? ["kind"] = some "Status" then reportOf j else object j

/-- What an API server says of its version. -/
structure Version where
  server : String
  gitVersion : String
  gitCommit : String
  buildDate : String
  platform : String
  deriving DecidableEq, Repr

/-- Reads the version; all that a server tells must be there. -/
def versionOf : Decoder Version :=
  let names := ["major", "minor", "gitVersion", "gitCommit", "gitTreeState", "buildDate",
    "goVersion", "compiler", "platform"]
  Json.Decode.record "a version" (names.map ([·])) fun f => do
    let part (i : Nat) : Except Fault String := f.required i (names.getD i "") Json.Decode.text
    let major ← part 0
    let minor ← part 1
    let gitVersion ← part 2
    let gitCommit ← part 3
    let _ ← part 4
    let buildDate ← part 5
    let _ ← part 6
    let _ ← part 7
    let platform ← part 8
    return { server := s!"{major}.{minor}", gitVersion, gitCommit, buildDate, platform }

def Version.toJson (v : Version) : Json :=
  .ofTexts [("server", v.server), ("git_version", v.gitVersion), ("git_commit", v.gitCommit),
    ("build_date", v.buildDate), ("platform", v.platform)]

end MultiCluster.Kube
