import MultiCluster.Json.Skip

/-! Reading a record of texts straight from JSON text, member by member. Reading stops at the first
fault and does not look at what follows the record. -/
namespace MultiCluster.Json.Texts

/-- The text is no JSON, or it is not the record that is expected. Which one it is depends on what
comes first in the text. -/
inductive Fault where
  | malformed
  | unexpected
  deriving DecidableEq, Repr

/-- What a reader makes of a text, with the rest of it. -/
abbrev Step (α : Type) := Except Fault (α × List Char)

/-- Turns a missing result into a fault of the text. -/
def orMalformed {α : Type} (o : Option α) : Except Fault α :=
  match o with
  | some a => .ok a
  | none => .error .malformed

/-- Any value is unexpected, unless it is not even well-formed at its start. -/
def wrongValue {α : Type} (cs : List Char) : Except Fault α :=
  match cs with
  | '[' :: _ | '{' :: _ => .error .unexpected
  | _ =>
    match cs with
    | '"' :: _ => if (readString cs).isSome then .error .unexpected else .error .malformed
    | 'n' :: _ | 't' :: _ | 'f' :: _ =>
      if (skipAtom cs).isSome then .error .unexpected else .error .malformed
    | _ => if (readNumber cs).isSome then .error .unexpected else .error .malformed

def readText (cs : List Char) : Step String :=
  match skipSpace cs with
  | '"' :: rest => orMalformed (readString ('"' :: rest))
  | other => wrongValue other

/-- The position of the field that has a name among its names. -/
def fieldOf (fields : List (List String)) (name : String) : Option Nat :=
  fields.findIdx? (·.contains name)

/-- The members of an object after its opening brace. A field given twice is refused before its
second value is read. -/
def readMembersOf (fields : List (List String)) :
    Nat → Bool → List (Option String) → List Char → Except Fault (List (Option String))
  | 0, _, _, _ => .error .malformed
  | fuel + 1, isFirst, found, cs => do
    let readOne (cs : List Char) : Except Fault (List (Option String)) := do
      let (name, cs) ← orMalformed (readString cs)
      match fieldOf fields name with
      | none =>
        let cs ← orMalformed (expect [':'] (skipSpace cs))
        let cs ← orMalformed (skipValue (2 * cs.length + 2) cs)
        readMembersOf fields fuel false found cs
      | some i =>
        if (found[i]?.join).isSome then throw .unexpected
        let cs ← orMalformed (expect [':'] (skipSpace cs))
        let (value, cs) ← readText cs
        readMembersOf fields fuel false (found.set i (some value)) cs
    match skipSpace cs with
    | '}' :: _ => return found
    | ',' :: rest =>
      if isFirst then throw .malformed
      match skipSpace rest with
      | '"' :: tail => readOne ('"' :: tail)
      | _ => throw .malformed
    | '"' :: tail => if isFirst then readOne ('"' :: tail) else throw .malformed
    | _ => throw .malformed

/-- The items of an array after its opening bracket, one for each field that is left. An array may
end early but not go on. -/
def readItemsOf : List (List String) → Bool → List Char → Except Fault (List (Option String))
  | [], _, cs =>
    match skipSpace cs with
    | ']' :: _ => .ok []
    | _ => .error .malformed
  | _ :: rest, isFirst, cs =>
    match skipSpace cs with
    | ']' :: _ => .ok ((none :: rest.map fun _ => none))
    | ',' :: tail =>
      if isFirst then .error .malformed else
      match skipSpace tail with
      | ']' :: _ => .error .malformed
      | tail => do
        let (value, tail) ← readText tail
        return some value :: (← readItemsOf rest false tail)
    | other => do
      if !isFirst then throw .malformed
      let (value, tail) ← readText other
      return some value :: (← readItemsOf rest false tail)

/-- The texts of the fields, where given. Each field goes by any of its names; an array gives the
fields by position. The first `required` fields of an array that ends early are missed by it before
anything else is. -/
def read (fields : List (List String)) (text : String) : Except Fault (List (Option String)) :=
  match skipSpace text.toList with
  | '{' :: rest => readMembersOf fields (rest.length + 1) true (fields.map fun _ => none) rest
  | '[' :: rest => readItemsOf fields true rest
  | other => wrongValue other

end MultiCluster.Json.Texts
