import MultiCluster.Text.Utf8
import MultiCluster.Yaml.Token.Lexer

/-! YAML documents as trees of nodes: scalars as text, collections, and aliases of anchored nodes.
A token list is read by the grammar of both styles; keys and values that are left out are empty
scalars. -/
namespace MultiCluster.Yaml

/-- What may stand in front of a node: an anchor, by its number, and a tag. -/
structure Properties where
  anchor : Option Nat
  tag : Option Tag
  deriving DecidableEq, Repr

/-- A node. -/
inductive Node where
  | alias (anchor : Nat)
  | scalar (props : Properties) (isPlain : Bool) (text : String)
  | seq (props : Properties) (items : List Node)
  | map (props : Properties) (pairs : List (Node × Node))
  deriving Inhabited, Repr

namespace Node

def empty : Node := .scalar ⟨none, none⟩ true ""

/-- A reader of tokens. -/
structure State where
  tokens : List Token
  /-- The numbers of the anchors seen in the document, by name. -/
  anchors : List (String × Nat)
  /-- What the handles of tags stand for. -/
  handles : List (String × Tag)
  deriving DecidableEq, Repr

abbrev Reader := StateT State Option

def fail {α : Type} : Reader α := fun _ => none

def peek : Reader (Option Token) := fun s => some (s.tokens.head?, s)

def skip : Reader Unit := fun s => some ((), { s with tokens := s.tokens.drop 1 })

/-- Whether the next token is one of the given ones. -/
def isNext (tokens : List Token) : Reader Bool := do
  return (← peek).any tokens.contains

/-- Drops the next token if it is the given one, and tells whether it was. -/
def accept (token : Token) : Reader Bool := do
  let found ← isNext [token]
  if found then skip
  return found

/-- Drops the next token, which has to be the given one. -/
def expect (token : Token) : Reader Unit := do
  if !(← accept token) then fail

/-- The number of a new anchor: how many names are known. A name that is known takes it over. -/
def nameAnchor (name : String) : Reader Nat := fun s =>
  let number := s.anchors.length
  let others := s.anchors.filter (·.1 ≠ name)
  some (number, { s with anchors := (name, number) :: others })

/-- The anchor at the front, if one is there. -/
def readAnchor : Reader (Option String) := do
  match ← peek with
  | some (.anchor name) => skip; return some name
  | _ => return none

/-- The tag at the front, if one is there. -/
def readTag : Reader (Option Tag) := do
  match ← peek with
  | some (.tag handle suffix) =>
    skip
    if handle.isEmpty then return some suffix
    match (← get).handles.lookup handle with
    | some start => return some (start ++ suffix)
    | none => fail
  | _ => return none

/-- The anchor and the tag at the front, in either order. -/
def readProperties : Reader (Option String × Option Tag) := do
  match ← readAnchor with
  | some name => return (some name, ← readTag)
  | none =>
    let tag ← readTag
    if tag.isSome then return (← readAnchor, tag)
    return (none, none)

def noTag : Tag := [33]

mutual

/-- A node. In block style it may be a block collection, and behind a key also a sequence without
indentation of its own. -/
def read (isBlock mayBeSequence : Bool) : Nat → Reader Node
  | 0 => fail
  | fuel + 1 => do
    if let some (.alias name) ← peek then
      skip
      match (← get).anchors.lookup name with
      | some number => return .alias number
      | none => fail
    else
      let (name, tag) ← readProperties
      let token ← peek
      let anchored : Reader Properties := do
        match name with
        | some name => return ⟨some (← nameAnchor name), tag⟩
        | none => return ⟨none, tag⟩
      match token, isBlock with
      | some (.scalar isPlain text), _ =>
        skip
        let props ← anchored
        if tag == some noTag then return .scalar { props with tag := none } isPlain text
        else return .scalar props isPlain text
      | some .flowSequence, _ =>
        skip
        let props ← anchored
        return .seq props (← readFlowItems true fuel)
      | some .flowMapping, _ =>
        skip
        let props ← anchored
        return .map props (← readFlowPairs true fuel)
      | some .blockSequence, true =>
        skip
        let props ← anchored
        return .seq props (← readItems fuel)
      | some .blockMapping, true =>
        skip
        let props ← anchored
        return .map props (← readPairs fuel)
      | _, _ =>
        if mayBeSequence && token == some .item then
          let props ← anchored
          return .seq props (← readBareItems fuel)
        else if name.isSome || tag.isSome then
          return .scalar (← anchored) true ""
        else fail

/-- A node, or an empty one in front of one of the given tokens. -/
def readUnless (stops : List Token) (isBlock mayBeSequence : Bool) : Nat → Reader Node
  | 0 => fail
  | fuel + 1 => do
    if ← isNext stops then return empty else read isBlock mayBeSequence fuel

def readItems : Nat → Reader (List Node)
  | 0 => fail
  | fuel + 1 => do
    if ← accept .item then
      let node ← readUnless [.item, .blockEnd] true false fuel
      return node :: (← readItems fuel)
    else
      expect .blockEnd
      return []

/-- The items of a sequence without indentation of its own. -/
def readBareItems : Nat → Reader (List Node)
  | 0 => fail
  | fuel + 1 => do
    if ← accept .item then
      let node ← readUnless [.item, .key, .value, .blockEnd] true false fuel
      return node :: (← readBareItems fuel)
    else return []

def readPairs : Nat → Reader (List (Node × Node))
  | 0 => fail
  | fuel + 1 => do
    if ← accept .key then
      let stops := [Token.key, .value, .blockEnd]
      let key ← readUnless stops true true fuel
      let value ← if ← accept .value then readUnless stops true true fuel else pure empty
      return (key, value) :: (← readPairs fuel)
    else
      expect .blockEnd
      return []

/-- The items of a flow sequence. One with a key is a mapping of a single pair. -/
def readFlowItems (isFirst : Bool) : Nat → Reader (List Node)
  | 0 => fail
  | fuel + 1 => do
    if ← accept .flowSequenceEnd then return []
    if !isFirst then expect .comma
    if ← accept .key then
      let pair ← readSinglePair fuel
      return .map ⟨none, none⟩ [pair] :: (← readFlowItems false fuel)
    else if ← accept .flowSequenceEnd then return []
    else
      let node ← read false false fuel
      return node :: (← readFlowItems false fuel)

/-- A pair in a flow sequence. A key that is left out takes the token behind its mark with it. -/
def readSinglePair : Nat → Reader (Node × Node)
  | 0 => fail
  | fuel + 1 => do
    let key ←
      if ← isNext [.value, .comma, .flowSequenceEnd] then do skip; pure empty
      else read false false fuel
    let value ←
      if ← accept .value then readUnless [.comma, .flowSequenceEnd] false false fuel
      else pure empty
    return (key, value)

def readFlowPairs (isFirst : Bool) : Nat → Reader (List (Node × Node))
  | 0 => fail
  | fuel + 1 => do
    if ← accept .flowMappingEnd then return []
    if !isFirst then expect .comma
    if ← accept .key then
      let key ← readUnless [.value, .comma, .flowMappingEnd] false false fuel
      let value ←
        if ← accept .value then readUnless [.comma, .flowMappingEnd] false false fuel
        else pure empty
      return (key, value) :: (← readFlowPairs false fuel)
    else if ← accept .flowMappingEnd then return []
    else
      let key ← read false false fuel
      return (key, empty) :: (← readFlowPairs false fuel)

end

mutual

/-- The anchored nodes within a node by their numbers, in the order in which they start. -/
def anchored : Node → List (Nat × Node)
  | .alias _ => []
  | .scalar props isPlain text =>
    props.anchor.toList.map fun n => (n, .scalar props isPlain text)
  | .seq props items =>
    (props.anchor.toList.map fun n => (n, .seq props items)) ++ anchoredItems items
  | .map props pairs =>
    (props.anchor.toList.map fun n => (n, .map props pairs)) ++ anchoredPairs pairs

def anchoredItems : List Node → List (Nat × Node)
  | [] => []
  | node :: rest => anchored node ++ anchoredItems rest

def anchoredPairs : List (Node × Node) → List (Nat × Node)
  | [] => []
  | (key, value) :: rest => anchored key ++ anchored value ++ anchoredPairs rest

end

mutual

/-- How many steps it takes to go through a node: one for an alias or a scalar, and for a collection
one at either end. -/
def size : Node → Nat
  | .alias _ => 1
  | .scalar _ _ _ => 1
  | .seq _ items => sizeItems items + 2
  | .map _ pairs => sizePairs pairs + 2

def sizeItems : List Node → Nat
  | [] => 0
  | node :: rest => size node + sizeItems rest

def sizePairs : List (Node × Node) → Nat
  | [] => 0
  | (key, value) :: rest => size key + size value + sizePairs rest

end

/-- The handles that every document knows. -/
def commonHandles : List (String × Tag) :=
  [("!", noTag), ("!!", Text.utf8Octets "tag:yaml.org,2002:")]

/-- The directives in front of a document: a version at most once, of the first kind, and handles
each at most once. Tells whether there were any. -/
def readDirectives : Nat → Bool → List (String × Tag) → Reader Bool
  | 0, _, _ => fail
  | fuel + 1, isVersioned, handles => do
    match ← peek with
    | some (.version major minor) =>
      if isVersioned || major ≠ 1 || (minor ≠ 1 && minor ≠ 2) then fail
      skip
      readDirectives fuel true handles
    | some (.handle name start) =>
      if (handles.lookup name).isSome then fail
      skip
      readDirectives fuel isVersioned ((name, start) :: handles)
    | _ =>
      modify fun s => { s with anchors := [], handles := handles ++ commonHandles }
      return isVersioned || !handles.isEmpty

/-- The tokens at which the content of a document ends before it has begun. -/
def endsDocument : Option Token → Bool
  | none | some (.version _ _) | some (.handle _ _) => true
  | some .documentStart | some .documentEnd => true
  | _ => false

/-- The documents of a stream. The first needs no mark in front of it; behind each there may be
marks of its end. -/
def readDocuments (isFirst : Bool) : Nat → Reader (List Node)
  | 0 => fail
  | fuel + 1 => do
    let isEnd ← if isFirst then pure false else accept .documentEnd
    if isEnd then readDocuments false fuel
    else if (← get).tokens.isEmpty then return []
    else
      let size := 3 * (← get).tokens.length + 3
      let hasDirectives ← readDirectives size false []
      let isMarked ← accept .documentStart
      if !isMarked && (hasDirectives || !isFirst) then fail
      let next ← peek
      let node ← if isMarked && endsDocument next then pure empty else read true false size
      let _ ← accept .documentEnd
      return node :: (← readDocuments false fuel)

/-- The documents of a text, of which there is always one. -/
def documents? (text : String) : Option (List Node) := do
  let tokens ← Token.ofText? text
  let (nodes, _) ← readDocuments true (tokens.length + 2) ⟨tokens, [], []⟩
  return if nodes.isEmpty then [empty] else nodes

end Node
end MultiCluster.Yaml
