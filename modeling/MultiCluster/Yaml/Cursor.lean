/-! Places in a YAML text, and the characters that separate its parts: blanks and line breaks. -/
namespace MultiCluster.Yaml

def isBlank (c : Char) : Bool := c == ' ' || c == '\t'

def isBreak (c : Char) : Bool :=
  c == '\r' || c == '\n' || c == '\u0085' || c == '\u2028' || c == '\u2029'

/-- Whether what came before is over: a blank, a line break or nothing follows. -/
def endsWord : List Char → Bool
  | [] => true
  | c :: _ => isBlank c || isBreak c

/-- Characters that a YAML text may hold. -/
def isAllowed (c : Char) : Bool :=
  let n := c.toNat
  n == 0x9 || n == 0xA || n == 0xD || (0x20 ≤ n && n ≤ 0x7E) || n == 0x85
    || (0xA0 ≤ n && n ≤ 0xFFFD) || 0x10000 ≤ n

/-- Letters, digits, dashes and underscores, of which names consist. -/
def isNameChar (c : Char) : Bool := c.isAlphanum || c == '_' || c == '-'

/-- The character that the line break in front of a text stands for, and how many characters write
it. Separators of lines and paragraphs stay what they are. -/
def lineBreak? : List Char → Option (Char × Nat)
  | '\r' :: '\n' :: _ => some ('\n', 2)
  | c :: _ =>
    if c == '\u2028' || c == '\u2029' then some (c, 1)
    else if isBreak c then some ('\n', 1)
    else none
  | [] => none

/-- A place in a text: what follows it, its line and column, and how many characters are in front
of it. -/
structure Cursor where
  rest : List Char
  line : Nat
  column : Nat
  index : Nat
  deriving DecidableEq, Repr

namespace Cursor

def ofText (text : String) : Cursor := ⟨text.toList, 0, 0, 0⟩

/-- The character at the place. -/
def peek? (c : Cursor) : Option Char := c.rest.head?

def skip (n : Nat) (c : Cursor) : Cursor :=
  { c with rest := c.rest.drop n, column := c.column + n, index := c.index + n }

/-- The characters that satisfy a condition, of which no line break may be one, and the place behind
them. -/
def span (p : Char → Bool) (c : Cursor) : List Char × Cursor :=
  let seen := c.rest.takeWhile p
  (seen, c.skip seen.length)

/-- Goes on behind characters that satisfy a condition. -/
def skipWhile (p : Char → Bool) (c : Cursor) : Cursor := (c.span p).2

def skipLine (c : Cursor) : Cursor := c.skipWhile fun x => !isBreak x

/-- The line break at the place, and the start of the next line. -/
def break? (c : Cursor) : Option (Char × Cursor) :=
  (lineBreak? c.rest).map fun b =>
    (b.1, { rest := c.rest.drop b.2, line := c.line + 1, column := 0, index := c.index + b.2 })

/-- Goes on behind a line break if there is one. -/
def skipBreak (c : Cursor) : Cursor := (c.break?.map Prod.snd).getD c

/-- Whether a line starts here with the three characters that separate documents. -/
def isAtMarker (c : Cursor) (mark : Char) : Bool :=
  c.column == 0 && c.rest.take 3 == [mark, mark, mark] && endsWord (c.rest.drop 3)

/-- Whether a document starts or ends here. -/
def isAtBoundary (c : Cursor) : Bool := c.isAtMarker '-' || c.isAtMarker '.'

/-- Goes on behind the blanks and the comment at the end of a line, and behind the line. Nothing
else may follow. -/
def endLine? (c : Cursor) : Option Cursor :=
  let c := c.skipWhile isBlank
  let c := if c.peek? == some '#' then c.skipLine else c
  if c.peek?.all isBreak then some c.skipBreak else none

end Cursor
end MultiCluster.Yaml
