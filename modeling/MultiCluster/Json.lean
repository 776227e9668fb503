import MultiCluster.Binary64

/-! JSON values. Whole numbers within 64 bits are kept apart from double precision ones, and an
object keeps its members as written, repeated keys included. -/
namespace MultiCluster

/-- A JSON value. A part of a text that stands for none, such as a number beyond all bounds, is
unreadable. -/
inductive Json where
  | null
  | bool (value : Bool)
  | int (value : Int)
  | real (value : Binary64)
  | str (value : String)
  | arr (items : List Json)
  | obj (members : List (String × Json))
  | unreadable
  deriving Inhabited, Repr

namespace Json

/-- The value of the last member with the key, if the value is an object that has one. -/
def member? (key : String) : Json → Option Json
  | .obj members => members.foldl (fun found m => if m.1 = key then some m.2 else found) none
  | _ => none

/-- Puts a member into a list sorted by key, in place of one with the same key. -/
def putMember (key : String) (value : Json) : List (String × Json) → List (String × Json)
  | [] => [(key, value)]
  | (k, v) :: rest =>
    if key < k then (key, value) :: (k, v) :: rest
    else if key = k then (key, value) :: rest
    else (k, v) :: putMember key value rest

mutual

/-- The value with the members of every object sorted by key; of members with one key the last
stays. -/
def canonical : Json → Json
  | .arr items => .arr (canonicalItems items)
  | .obj members => .obj (canonicalMembers [] members)
  | j => j

def canonicalItems : List Json → List Json
  | [] => []
  | j :: rest => canonical j :: canonicalItems rest

/-- The members in canonical form, put into a sorted list. -/
def canonicalMembers (sorted : List (String × Json)) : List (String × Json) → List (String × Json)
  | [] => sorted
  | (k, v) :: rest => canonicalMembers (putMember k (canonical v) sorted) rest

end

mutual

/-- Equality of values as written, the order of members included. -/
def beq : Json → Json → Bool
  | .null, .null | .unreadable, .unreadable => true
  | .bool a, .bool b => a == b
  | .int a, .int b => a == b
  | .real a, .real b => a == b
  | .str a, .str b => a == b
  | .arr xs, .arr ys => beqItems xs ys
  | .obj xs, .obj ys => beqMembers xs ys
  | _, _ => false

def beqItems : List Json → List Json → Bool
  | [], [] => true
  | x :: xs, y :: ys => beq x y && beqItems xs ys
  | _, _ => false

def beqMembers : List (String × Json) → List (String × Json) → Bool
  | [], [] => true
  | (k, x) :: xs, (l, y) :: ys => k == l && beq x y && beqMembers xs ys
  | _, _ => false

end

instance : BEq Json := ⟨beq⟩

mutual

/-- Whether no part of the value is unreadable. -/
def isReadable : Json → Bool
  | .arr items => areItemsReadable items
  | .obj members => areMembersReadable members
  | .unreadable => false
  | _ => true

def areItemsReadable : List Json → Bool
  | [] => true
  | j :: rest => isReadable j && areItemsReadable rest

def areMembersReadable : List (String × Json) → Bool
  | [] => true
  | (_, j) :: rest => isReadable j && areMembersReadable rest

end

def str? : Json → Option String
  | .str s => some s
  | _ => none

def items? : Json → Option (List Json)
  | .arr items => some items
  | _ => none

def members? : Json → Option (List (String × Json))
  | .obj members => some members
  | _ => none

/-- A text, or null where there is none. -/
def ofText? : Option String → Json
  | some s => .str s
  | none => .null

/-- Texts by key as an object. -/
def ofTexts (entries : List (String × String)) : Json :=
  .obj (entries.map fun e => (e.1, .str e.2))

end Json
end MultiCluster
