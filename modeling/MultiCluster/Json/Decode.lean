import MultiCluster.Json
import MultiCluster.Binary64.Shortest
import MultiCluster.Text.Quoted

/-! Typed reading of JSON values. A record is read from an object, whose unknown members are
ignored and whose known ones occur once, or from an array of its fields in declaration order. -/
namespace MultiCluster.Json

open Text

/-- Why a value cannot be read as what is expected. -/
inductive Fault where
  | wrongType (found : Json) (expected : String)
  | outOfRange (found : Int) (expected : String)
  | missing (field : String)
  | repeated (field : String)
  | tooShort (length : Nat) (expected : String)
  | tooLong (length : Nat)
  | unknownName (found : String)
  deriving Inhabited

def kind : Json → String
  | .null => "null"
  | .bool b => s!"boolean `{b}`"
  | .int i => s!"integer `{i}`"
  | .real x => s!"floating point `{x.compactText}`"
  | .str s => s!"string {quoted s}"
  | .arr _ => "sequence"
  | .obj _ => "map"
  | .unreadable => "unreadable part"

def Fault.message : Fault → String
  | .wrongType found expected => s!"invalid type: {found.kind}, expected {expected}"
  | .outOfRange found expected => s!"invalid value: integer `{found}`, expected {expected}"
  | .missing field => s!"missing field `{field}`"
  | .repeated field => s!"duplicate field `{field}`"
  | .tooShort length expected => s!"invalid length {length}, expected {expected}"
  | .tooLong length => s!"invalid length {length}, expected fewer elements in array"
  | .unknownName found => s!"unknown variant `{found}`"

abbrev Decoder (α : Type) := Json → Except Fault α

namespace Decode

def any : Decoder Json := fun j => if j.isReadable then .ok j else .error (.wrongType j "a value")

def text : Decoder String
  | .str s => .ok s
  | j => .error (.wrongType j "a string")

def bool : Decoder Bool
  | .bool b => .ok b
  | j => .error (.wrongType j "a boolean")

/-- A whole number between the bounds, both included. -/
def intBetween (low high : Int) (name : String) : Decoder Int
  | .int i => if low ≤ i ∧ i ≤ high then .ok i else .error (.outOfRange i name)
  | j => .error (.wrongType j name)

def int64 : Decoder Int := intBetween (Word.least 64) (Word.greatest 64) "i64"

def int32 : Decoder Int := intBetween (Word.least 32) (Word.greatest 32) "i32"

def nat (width : Nat) (j : Json) : Except Fault Nat :=
  (intBetween 0 (Word.limit width - 1) s!"u{width}" j).map Int.toNat

/-- A double precision number; a whole number is one too. -/
def real : Decoder Binary64
  | .real x => .ok x
  | .int i => .ok (Binary64.ofInt i)
  | j => .error (.wrongType j "f64")

def nullable {α : Type} (item : Decoder α) : Decoder (Option α)
  | .null => .ok none
  | j => (item j).map some

def list {α : Type} (item : Decoder α) : Decoder (List α)
  | .arr items => items.mapM item
  | j => .error (.wrongType j "a sequence")

/-- Puts an entry into a list sorted by key, in place of one with the same key. -/
def putEntry {α : Type} (key : String) (value : α) : List (String × α) → List (String × α)
  | [] => [(key, value)]
  | (k, v) :: rest =>
    if key < k then (key, value) :: (k, v) :: rest
    else if key = k then (key, value) :: rest
    else (k, v) :: putEntry key value rest

/-- The members of an object sorted by key; of members with one key the last stays. -/
def dictionary {α : Type} (item : Decoder α) : Decoder (List (String × α))
  | .obj members => members.foldlM (fun sorted m => (item m.2).map (putEntry m.1 · sorted)) []
  | j => .error (.wrongType j "a map")

/-- One of some names, as a text or as the key of an object whose only value is null. -/
def named {α : Type} (names : List (String × α)) (expected : String) : Decoder α
  | .str s | .obj [(s, .null)] =>
    match names.lookup s with
    | some a => .ok a
    | none => .error (.unknownName s)
  | j => .error (.wrongType j expected)

/-- What a record's fields hold, in declaration order. When they are given by position, `position`
says how a diagnostic calls the record. -/
structure Fields where
  values : List (Option Json)
  position : Option String

/-- The member among those with one of a field's names; two of them are a fault. -/
def memberOf (members : List (String × Json)) (names : List String) :
    Except Fault (Option Json) :=
  match members.filter fun m => names.contains m.1 with
  | [] => .ok none
  | [m] => .ok (some m.2)
  | m :: _ => .error (.repeated m.1)

/-- The value of the field at an index, if given. -/
def Fields.value? (f : Fields) (i : Nat) : Option Json := f.values[i]?.join

/-- A field that may be absent. -/
def Fields.optional {α : Type} (f : Fields) (i : Nat) (item : Decoder α) :
    Except Fault (Option α) :=
  match f.value? i with
  | none => .ok none
  | some j => (item j).map some

/-- A field that has a default. -/
def Fields.withDefault {α : Type} (f : Fields) (i : Nat) (item : Decoder α) (default : α) :
    Except Fault α :=
  (f.optional i item).map (·.getD default)

/-- The value of a field that must be there. -/
def Fields.present {α : Type} (f : Fields) (i : Nat) (name : String) : Option α → Except Fault α
  | some a => .ok a
  | none =>
    match f.position with
    | some expected => .error (.tooShort i expected)
    | none => .error (.missing name)

def Fields.required {α : Type} (f : Fields) (i : Nat) (name : String) (item : Decoder α) :
    Except Fault α := do
  f.present i name (← f.optional i item)

/-- A field that is nothing when it is null, and that only an object may lack. -/
def Fields.nullable {α : Type} (f : Fields) (i : Nat) (name : String) (item : Decoder α) :
    Except Fault (Option α) :=
  match f.position, f.value? i with
  | none, none => .ok none
  | _, _ => f.required i name (Decode.nullable item)

/-- A record, built from its fields. Each field is given by its names, of which the first is its own
and the others are aliases. -/
def record {α : Type} (expected : String) (names : List (List String))
    (build : Fields → Except Fault α) : Decoder α
  | .obj members => do build { values := ← names.mapM (memberOf members), position := none }
  | .arr items => do
    let built ← build {
      values := items.map some
      position := some s!"{expected} with {names.length} elements" }
    if items.length > names.length then throw (.tooLong items.length)
    return built
  | j => .error (.wrongType j expected)

end Decode
end MultiCluster.Json
