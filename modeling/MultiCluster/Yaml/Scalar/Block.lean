import MultiCluster.Text.Numeral
import MultiCluster.Yaml.Cursor

/-! Block scalars: lines by indentation under a header that tells whether line breaks are kept or
folded and what becomes of those at the end. -/
namespace MultiCluster.Yaml

open Text

/-- What becomes of line breaks at the end of a block scalar: all are dropped, one is kept, or all
are. -/
inductive Chomping where
  | strip
  | clip
  | keep
  deriving DecidableEq, Repr

/-- The header of a block scalar. Without an indentation its first lines give it. -/
structure BlockHeader where
  isFolded : Bool
  chomping : Chomping
  indentation : Option Nat
  deriving DecidableEq, Repr

/-- A line of a block scalar: its text, the line break that ends it unless the text ends first, and
the breaks of the empty lines behind it. -/
structure BlockLine where
  text : List Char
  ending : Option Char
  emptyEndings : List Char
  deriving DecidableEq, Repr

namespace BlockHeader

/-- The marks of a header in either order, and how many characters write them. -/
def marks? : List Char → Option (Chomping × Option Nat × Nat)
  | [] => some (.clip, none, 0)
  | x :: rest =>
    let chomping? (c : Char) : Option Chomping :=
      if c == '+' then some .keep else if c == '-' then some .strip else none
    match chomping? x, digit? x with
    | some chomping, _ =>
      match rest.head?.bind digit? with
      | some 0 => none
      | some n => some (chomping, some n, 2)
      | none => some (chomping, none, 1)
    | none, some 0 => none
    | none, some n =>
      match rest.head?.bind chomping? with
      | some chomping => some (chomping, some n, 2)
      | none => some (.clip, some n, 1)
    | none, none => some (.clip, none, 0)

/-- The header at a place and the line behind it. -/
def read (c : Cursor) : Option (BlockHeader × Cursor) := do
  let isFolded := c.peek? == some '>'
  let c := c.skip 1
  let (chomping, indentation, size) ← marks? c.rest
  let c ← (c.skip size).endLine?
  return (⟨isFolded, chomping, indentation⟩, c)

end BlockHeader

/-- The breaks of empty lines, the greatest number of spaces in front of one of them or of what
follows, and the place where that starts. A tab may not stand where indentation is expected. -/
def readEmptyLines (indent : Option Nat) : Nat → Nat → Cursor → Option (List Char × Nat × Cursor)
  | 0, most, c => some ([], most, c)
  | fuel + 1, most, c =>
    let spaces := (c.rest.takeWhile (· == ' ')).length
    let c := c.skip (min spaces ((indent.map (· - c.column)).getD spaces))
    let most := max most c.column
    if c.peek? == some '\t' && indent.all (c.column < ·) then none
    else
      match c.break? with
      | none => some ([], most, c)
      | some (b, c) =>
        (readEmptyLines indent fuel most c).map fun r => (b :: r.1, r.2)

/-- The lines of a block scalar that start here, and the place behind them. -/
def readBlockLines (indent : Nat) : Nat → Cursor → Option (List BlockLine × Cursor)
  | 0, c => some ([], c)
  | fuel + 1, c => do
    if c.column ≠ indent || c.rest.isEmpty then return ([], c)
    let (text, c) := c.span fun x => !isBreak x
    let ending := c.break?.map Prod.fst
    let c := c.skipBreak
    let (emptyEndings, _, c) ← readEmptyLines (some indent) (c.rest.length + 1) 0 c
    let (lines, c) ← readBlockLines indent fuel c
    return (⟨text, ending, emptyEndings⟩ :: lines, c)

namespace BlockLine

/-- Whether the line starts with a blank. -/
def isSpaced (l : BlockLine) : Bool := l.text.head?.any isBlank

/-- The text between a line and the next one. Folding turns a single break into a space and drops
the first of several, but not at lines that start with a blank. -/
def gap (isFolded : Bool) (l next : BlockLine) : List Char :=
  if isFolded && l.ending == some '\n' && !l.isSpaced && !next.isSpaced then
    if l.emptyEndings.isEmpty then [' '] else l.emptyEndings
  else l.ending.toList ++ l.emptyEndings

/-- The text behind the last line. -/
def tail (chomping : Chomping) (l : BlockLine) : List Char :=
  match chomping with
  | .strip => []
  | .clip => l.ending.toList
  | .keep => l.ending.toList ++ l.emptyEndings

/-- The text of lines. -/
def join (header : BlockHeader) : List BlockLine → List Char
  | [] => []
  | [l] => l.text ++ l.tail header.chomping
  | l :: next :: rest => l.text ++ l.gap header.isFolded next ++ join header (next :: rest)

end BlockLine

/-- A block scalar inside a collection whose parts have the given indentation at least, and the
place behind it. -/
def readBlockScalar (level : Nat) (c : Cursor) : Option (List Char × Cursor) := do
  let (header, c) ← BlockHeader.read c
  let given := header.indentation.map (level - 1 + ·)
  let (first, most, c) ← readEmptyLines given (c.rest.length + 1) 0 c
  let indent := given.getD (max most (max level 1))
  let (lines, c) ← readBlockLines indent (c.rest.length + 1) c
  if lines.isEmpty then return (if header.chomping = .keep then first else [], c)
  return (first ++ BlockLine.join header lines, c)

end MultiCluster.Yaml
