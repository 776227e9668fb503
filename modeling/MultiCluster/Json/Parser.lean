import MultiCluster.Json.Skip
import MultiCluster.Text.Utf8

/-! Reading JSON text. Arrays and objects nest to a given depth at most. Strictly, every part of a
text has to stand for a value; leniently, one that does not is marked as unreadable. -/
namespace MultiCluster.Json

/-- The items of an array after its opening bracket and up to its closing one. -/
def readItems (item : Reader Json) : Nat → List Json → Reader (List Json)
  | 0, _, _ => none
  | fuel + 1, seen, cs => do
    let (value, cs) ← item cs
    match skipSpace cs with
    | ',' :: rest => readItems item fuel (value :: seen) rest
    | ']' :: rest => some ((value :: seen).reverse, rest)
    | _ => none

/-- The members of an object after its opening brace and up to its closing one. -/
def readMembers (item : Reader Json) : Nat → List (String × Json) → Reader (List (String × Json))
  | 0, _, _ => none
  | fuel + 1, seen, cs => do
    let (key, cs) ← readString (skipSpace cs)
    let (value, cs) ← item (← expect [':'] (skipSpace cs))
    match skipSpace cs with
    | ',' :: rest => readMembers item fuel ((key, value) :: seen) rest
    | '}' :: rest => some (((key, value) :: seen).reverse, rest)
    | _ => none

/-- A value in which arrays and objects nest to less than the given depth. Leniently, what is
well-formed but stands for no value is unreadable. -/
def readValue (isLenient : Bool) : Nat → Reader Json
  | depth, cs =>
    let found := match skipSpace cs with
      | 'n' :: rest => (expect ['u', 'l', 'l'] rest).map (.null, ·)
      | 't' :: rest => (expect ['r', 'u', 'e'] rest).map (.bool true, ·)
      | 'f' :: rest => (expect ['a', 'l', 's', 'e'] rest).map (.bool false, ·)
      | '"' :: rest => (readString ('"' :: rest)).map fun r => (.str r.1, r.2)
      | '[' :: rest =>
        match depth with
        | 0 => none
        | deeper + 1 =>
          match skipSpace rest with
          | ']' :: tail => some (.arr [], tail)
          | tail => (readItems (readValue isLenient deeper) (tail.length + 1) [] tail).map
              fun r => (.arr r.1, r.2)
      | '{' :: rest =>
        match depth with
        | 0 => none
        | deeper + 1 =>
          match skipSpace rest with
          | '}' :: tail => some (.obj [], tail)
          | tail => (readMembers (readValue isLenient deeper) (tail.length + 1) [] tail).map
              fun r => (.obj r.1, r.2)
      | other => readNumber other
    if found.isSome || !isLenient then found
    else (skipValue (2 * cs.length + 2) cs).map (.unreadable, ·)

/-- Arrays and objects nest to this depth at most. -/
def maxDepth : Nat := 127

/-- The value that comes first in the text; what follows it is not looked at. -/
def parseFirst? (text : String) : Option Json :=
  (readValue false maxDepth text.toList).map (·.1)

/-- A value and nothing but white space behind it. -/
def complete (found : Option (Json × List Char)) : Option Json := do
  let (value, rest) ← found
  if (skipSpace rest).isEmpty then some value else none

/-- The value that a text holds; only white space may follow it. -/
def parse? (text : String) : Option Json := complete (readValue false maxDepth text.toList)

/-- The value that a text holds, with its unreadable parts marked. -/
def parseLenient? (text : String) : Option Json := complete (readValue true maxDepth text.toList)

/-- What stands for a fault in octets: no text has it outside strings, and within them it is an
escape that writes no character. -/
def faultMark : List Char := "?\\udc00".toList

/-- The value that octets hold. Strings that nobody wants to know may have faults. -/
def parseOctets? (octets : List UInt8) : Option Json :=
  parseLenient? (String.ofList ((Text.decodeOctets none octets).flatMap fun
    | some c => [c]
    | none => faultMark))

end MultiCluster.Json
