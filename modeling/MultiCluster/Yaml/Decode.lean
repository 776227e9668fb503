import MultiCluster.Yaml.Value

/-! Typed reading of YAML values. Tags do not count, except that a tagged value is never nothing.
Records and maps are mappings whose keys are texts; nothing at all is an empty one. -/
namespace MultiCluster.Yaml

abbrev Decoder (α : Type) := Value → Option α

namespace Decode

def text : Decoder String := fun v =>
  match v.untagged with
  | .str s => some s
  | _ => none

def flag : Decoder Bool := fun v =>
  match v.untagged with
  | .bool b => some b
  | _ => none

def nullable {α : Type} (item : Decoder α) : Decoder (Option α)
  | .null => some none
  | v => (item v).map some

def list {α : Type} (item : Decoder α) : Decoder (List α) := fun v =>
  match v.untagged with
  | .seq items => items.mapM item
  | .null => some []
  | _ => none

def members : Decoder (List (String × Value)) := fun v =>
  match v.untagged with
  | .map pairs => pairs.mapM fun p => (text p.1).map fun key => (key, p.2)
  | .null => some []
  | _ => none

/-- Texts by key; of two with one key the later stays. -/
def texts : Decoder (List (String × String)) := fun v => do
  let entries ← (← members v).mapM fun m => (text m.2).map fun s => (m.1, s)
  return entries.reverse

/-- A member of a record. It may be left out but not given twice. -/
def optional {α : Type} (members : List (String × Value)) (key : String) (item : Decoder α) :
    Option (Option α) :=
  match members.filter (·.1 = key) with
  | [] => some none
  | [m] => (item m.2).map some
  | _ => none

/-- A member of a record that may be left out or null. -/
def perhaps {α : Type} (members : List (String × Value)) (key : String) (item : Decoder α) :
    Option (Option α) :=
  (optional members key (nullable item)).map Option.join

def required {α : Type} (members : List (String × Value)) (key : String) (item : Decoder α) :
    Option α :=
  (optional members key item).bind id

/-- Items that may be left out or null; there are none then. -/
def items {α : Type} (members : List (String × Value)) (key : String) (item : Decoder α) :
    Option (List α) :=
  (perhaps members key (list item)).map (·.getD [])

/-- One of some names, as a text, or as a tag over nothing. -/
def named {α : Type} (names : List (String × α)) : Decoder α
  | .str s => names.lookup s
  | .tagged tag v =>
    match v.untagged with
    | .null => (Text.utf8Text? tag).bind fun s => names.lookup s
    | _ => none
  | _ => none

mutual

/-- Whether a value is free of tags, keys apart, and all its keys are texts. -/
def isPlain : Value → Bool
  | .seq items => areItemsPlain items
  | .map pairs => arePairsPlain pairs
  | .tagged _ _ => false
  | _ => true

def areItemsPlain : List Value → Bool
  | [] => true
  | v :: rest => isPlain v && areItemsPlain rest

def arePairsPlain : List (Value × Value) → Bool
  | [] => true
  | (k, v) :: rest => (text k).isSome && isPlain v && arePairsPlain rest

end

def plain : Decoder Value := fun v => if isPlain v then some v else none

end Decode
end MultiCluster.Yaml
