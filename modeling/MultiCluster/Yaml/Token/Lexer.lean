import MultiCluster.Yaml.Scalar
import MultiCluster.Yaml.Scalar.Block
import MultiCluster.Yaml.Token.Name

/-! From texts to tokens. A colon turns what is in front of it into a key, so the place where a key
may have begun is kept for every open collection in flow style. Collections in block style start and
end by the column in which their parts begin. -/
namespace MultiCluster.Yaml

/-- Where a key may have begun: the number of tokens in front of it and its place. A part of a block
mapping that is open already has to be a key. -/
structure KeySpot where
  token : Nat
  start : Cursor
  isRequired : Bool
  deriving DecidableEq, Repr

/-- A lexer at work. Levels are the least columns of what belongs to the open block collections, the
innermost first. -/
structure Lexer where
  cursor : Cursor
  tokens : Array Token
  levels : List Nat
  /-- Where a key of the innermost collection may have begun. -/
  spot : Option KeySpot
  /-- The same for the collections around it; empty outside flow collections. -/
  outer : List (Option KeySpot)
  /-- Whether a key may begin at the next token. -/
  allowsKey : Bool
  deriving DecidableEq, Repr

namespace Lexer

def ofText (text : String) : Lexer := ⟨Cursor.ofText text, #[], [], none, [], true⟩

/-- Whether a flow collection is open. -/
def isInFlow (l : Lexer) : Bool := !l.outer.isEmpty

/-- The least column of what belongs to the innermost block collection. -/
def level (l : Lexer) : Nat := l.levels.headD 0

/-- Adds a token and goes on behind its characters. -/
def push (token : Token) (cursor : Cursor) (l : Lexer) : Lexer :=
  { l with tokens := l.tokens.push token, cursor }

/-- Adds a token of the given number of characters. -/
def mark (token : Token) (size : Nat) (l : Lexer) : Lexer := l.push token (l.cursor.skip size)

/-- Opens a block collection in a column unless one is open there; its start goes in front of the
token with the given number. -/
def openBlock (start : Token) (column number : Nat) (l : Lexer) : Lexer :=
  if l.isInFlow || column < l.level then l
  else
    { l with
      tokens := l.tokens.insertIdxIfInBounds number start, levels := (column + 1) :: l.levels }

/-- Ends the block collections that need a greater column. -/
def closeBlocks (column : Nat) (l : Lexer) : Lexer :=
  if l.isInFlow then l
  else
    let ended := l.levels.takeWhile (column + 1 < ·)
    { l with
      tokens := l.tokens ++ ended.map fun _ => Token.blockEnd
      levels := l.levels.drop ended.length }

/-- Ends all block collections. -/
def closeAll (l : Lexer) : Lexer :=
  if l.isInFlow then l
  else { l with tokens := l.tokens ++ l.levels.map fun _ => Token.blockEnd, levels := [] }

/-- Whether a key spot is too far back: on another line, or more than 1024 characters away. -/
def isStale (l : Lexer) (k : KeySpot) : Bool :=
  k.start.line < l.cursor.line || k.start.index + 1024 < l.cursor.index

/-- Forgets where keys may have begun if it is too far back. -/
def dropStale (l : Lexer) : Option Lexer :=
  let spots := l.spot :: l.outer
  if spots.any fun s => s.any fun k => k.isRequired && l.isStale k then none
  else
    let fresh (s : Option KeySpot) : Option KeySpot := s.filter fun k => !l.isStale k
    some { l with spot := fresh l.spot, outer := l.outer.map fresh }

/-- Forgets where a key of the innermost collection may have begun. -/
def dropSpot (l : Lexer) : Option Lexer :=
  if l.spot.any (·.isRequired) then none else some { l with spot := none }

/-- Keeps the place as one where a key may begin. -/
def saveSpot (l : Lexer) : Option Lexer :=
  if l.allowsKey then
    l.dropSpot.map fun l =>
      let isRequired := !l.isInFlow && l.level == l.cursor.column + 1
      { l with spot := some ⟨l.tokens.size, l.cursor, isRequired⟩ }
  else some l

/-- Goes on to the next token, behind blanks, comments and line breaks. Tabs separate tokens only
where no key may begin. -/
def skipToToken : Nat → Lexer → Lexer
  | 0, l => l
  | fuel + 1, l =>
    let c := l.cursor
    let c := if c.column == 0 && c.peek? == some '\uFEFF' then c.skip 1 else c
    let c := c.skipWhile fun x => x == ' ' || (x == '\t' && (l.isInFlow || !l.allowsKey))
    let c := if c.peek? == some '#' then c.skipLine else c
    match c.break? with
    | none => { l with cursor := c }
    | some (_, c) =>
      skipToToken fuel { l with cursor := c, allowsKey := l.allowsKey || !l.isInFlow }

/-- A token that ends all block collections: a directive or a boundary of documents. -/
def readOutside (token : Token) (cursor : Cursor) (l : Lexer) : Option Lexer :=
  l.closeAll.dropSpot.map fun l => { l.push token cursor with allowsKey := false }

/-- The start of a flow collection. -/
def openFlow (token : Token) (l : Lexer) : Option Lexer :=
  l.saveSpot.map fun l =>
    { l.mark token 1 with spot := none, outer := l.spot :: l.outer, allowsKey := true }

/-- The end of a flow collection. -/
def closeFlow (token : Token) (l : Lexer) : Option Lexer :=
  l.dropSpot.map fun l =>
    { l.mark token 1 with
      spot := l.outer.headD none, outer := l.outer.drop 1, allowsKey := false }

/-- A comma. -/
def readComma (l : Lexer) : Option Lexer :=
  l.dropSpot.map fun l => { l.mark .comma 1 with allowsKey := true }

/-- An indicator that may open a block collection, which it does not inside a flow collection. -/
def readIndicator (start token : Token) (allowsKey : Bool) (l : Lexer) : Option Lexer :=
  if !l.isInFlow && !l.allowsKey then none
  else
    (l.openBlock start l.cursor.column l.tokens.size).dropSpot.map fun l =>
      { l.mark token 1 with allowsKey }

/-- A colon. With a place where a key has begun, the key and perhaps its mapping start there. -/
def readValue (l : Lexer) : Option Lexer :=
  match l.spot with
  | some k =>
    let l := { l with tokens := l.tokens.insertIdxIfInBounds k.token .key }
    let l := l.openBlock .blockMapping k.start.column k.token
    some { l.mark .value 1 with spot := none, allowsKey := false }
  | none => l.readIndicator .blockMapping .value (!l.isInFlow)

/-- A token that may be a key or stand in front of one. -/
def readKeyable (read : Option (Token × Cursor)) (l : Lexer) : Option Lexer := do
  let l ← l.saveSpot
  let (token, cursor) ← read
  return { l.push token cursor with allowsKey := false }

/-- A block scalar. -/
def readBlock (l : Lexer) : Option Lexer := do
  let l ← l.dropSpot
  let (text, cursor) ← readBlockScalar l.level l.cursor
  return { l.push (.scalar false (String.ofList text)) cursor with allowsKey := true }

/-- Whether a plain scalar starts here. -/
def startsPlain (isInFlow : Bool) : List Char → Bool
  | [] => false
  | '-' :: rest => !rest.head?.any isBlank
  | x :: rest =>
    if x == '?' || x == ':' then !isInFlow && !endsWord rest
    else !(isBlank x || isBreak x || ",[]\x7b\x7d#&*!|>'\"%@\x60".toList.contains x)

/-- A plain scalar. If line breaks follow it, a key may begin behind them. -/
def readPlainScalar (l : Lexer) : Option Lexer := do
  let l ← l.saveSpot
  let c := l.cursor
  let (text, isBroken, c) ← readPlain l.isInFlow l.level (c.rest.length + 1) ⟨[], []⟩ c
  return { l.push (.scalar true (String.ofList text)) c with allowsKey := isBroken }

/-- The next token, at which the lexer stands. -/
def readToken (l : Lexer) : Option Lexer :=
  let c := l.cursor
  let inner := c.skip 1
  let endsHere := endsWord inner.rest
  if c.column == 0 && c.peek? == some '%' then
    (readDirective c).bind fun r => l.readOutside r.1 r.2
  else if c.isAtMarker '-' then l.readOutside .documentStart (c.skip 3)
  else if c.isAtMarker '.' then l.readOutside .documentEnd (c.skip 3)
  else
    match c.rest with
    | '[' :: _ => l.openFlow .flowSequence
    | '{' :: _ => l.openFlow .flowMapping
    | ']' :: _ => l.closeFlow .flowSequenceEnd
    | '}' :: _ => l.closeFlow .flowMappingEnd
    | ',' :: _ => l.readComma
    | '*' :: _ => l.readKeyable ((readAnchorName inner).map fun r => (.alias r.1, r.2))
    | '&' :: _ => l.readKeyable ((readAnchorName inner).map fun r => (.anchor r.1, r.2))
    | '!' :: _ => l.readKeyable (readTag l.isInFlow c)
    | x :: _ =>
      if x == '-' && endsHere then l.readIndicator .blockSequence .item true
      else if x == '?' && (l.isInFlow || endsHere) then
        l.readIndicator .blockMapping .key (!l.isInFlow)
      else if x == ':' && (l.isInFlow || endsHere) then l.readValue
      else if (x == '|' || x == '>') && !l.isInFlow then l.readBlock
      else if x == '\'' || x == '"' then
        l.readKeyable ((readQuoted x (c.rest.length + 1) inner).map fun r =>
          (.scalar false (String.ofList r.1), r.2))
      else if startsPlain l.isInFlow c.rest then l.readPlainScalar
      else none
    | [] => none

/-- All tokens from here on. -/
def run : Nat → Lexer → Option (Array Token)
  | 0, _ => none
  | fuel + 1, l => do
    let l ← (skipToToken (l.cursor.rest.length + 1) l).dropStale
    let l := l.closeBlocks l.cursor.column
    if l.cursor.rest.isEmpty then return (← l.closeAll.dropSpot).tokens
    run fuel (← l.readToken)

end Lexer

/-- The tokens of a text. -/
def Token.ofText? (text : String) : Option (List Token) :=
  if text.toList.all isAllowed then
    (Lexer.run (text.length + 2) (Lexer.ofText text)).map Array.toList
  else none

end MultiCluster.Yaml
