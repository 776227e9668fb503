import MultiCluster.Text.Numeral
import MultiCluster.Yaml.Cursor

/-! The text of scalars that are plain or in quotes. Both may run over several lines: a single line
break stands for a space, of several the first is dropped, and the blanks around them are too. -/
namespace MultiCluster.Yaml

open Text

/-- A run of blanks and line breaks inside a scalar: the blanks in front of the first break, and the
breaks. -/
structure Gap where
  blanks : List Char
  breaks : List Char
  deriving DecidableEq, Repr

namespace Gap

def text (g : Gap) : List Char :=
  match g.breaks with
  | [] => g.blanks
  | ['\n'] => [' ']
  | '\n' :: more => more
  | breaks => breaks

/-- The line breaks at a place with the blanks behind them, in which no tab may stand where
indentation is expected. -/
def readBreaks (indent : Nat) : Nat → Cursor → Option (List Char × Cursor)
  | 0, c => some ([], c)
  | fuel + 1, c =>
    match c.break? with
    | none => some ([], c)
    | some (b, c) =>
      let (blanks, c) := c.span isBlank
      if (blanks.take indent).contains '\t' then none
      else (readBreaks indent fuel c).map fun r => (b :: r.1, r.2)

/-- The run at a place. -/
def read (indent : Nat) (c : Cursor) : Option (Gap × Cursor) :=
  let (blanks, c) := c.span isBlank
  (readBreaks indent (c.rest.length + 1) c).map fun r => (⟨blanks, r.1⟩, r.2)

end Gap

/-- The character of an escape whose backslash has been read, and how many characters it takes. -/
def escape? : List Char → Option (Char × Nat)
  | '0' :: _ => some ('\x00', 1)
  | 'a' :: _ => some ('\x07', 1)
  | 'b' :: _ => some ('\x08', 1)
  | 't' :: _ | '\t' :: _ => some ('\t', 1)
  | 'n' :: _ => some ('\n', 1)
  | 'v' :: _ => some ('\x0b', 1)
  | 'f' :: _ => some ('\x0c', 1)
  | 'r' :: _ => some ('\r', 1)
  | 'e' :: _ => some ('\x1b', 1)
  | ' ' :: _ => some (' ', 1)
  | '"' :: _ => some ('"', 1)
  | '/' :: _ => some ('/', 1)
  | '\\' :: _ => some ('\\', 1)
  | 'N' :: _ => some ('\u0085', 1)
  | '_' :: _ => some ('\u00A0', 1)
  | 'L' :: _ => some ('\u2028', 1)
  | 'P' :: _ => some ('\u2029', 1)
  | 'x' :: rest => (readCodePoint 2 rest).map fun r => (r.1, 3)
  | 'u' :: rest => (readCodePoint 4 rest).map fun r => (r.1, 5)
  | 'U' :: rest => (readCodePoint 8 rest).map fun r => (r.1, 9)
  | _ => none

/-- The rest of a scalar in quotes and the place behind it. In single quotes a quote is written
twice; in double ones a backslash escapes a character or a line break. -/
def readQuoted (quote : Char) : Nat → Cursor → Option (List Char × Cursor)
  | 0, _ => none
  | fuel + 1, c =>
    let goOn (text : List Char) (c : Cursor) : Option (List Char × Cursor) :=
      (readQuoted quote fuel c).map fun r => (text ++ r.1, r.2)
    if c.isAtBoundary then none else
    match c.rest with
    | [] => none
    | x :: rest =>
      if isBlank x || isBreak x then
        (Gap.read 0 c).bind fun g => goOn g.1.text g.2
      else if x == quote then
        if quote == '\'' && rest.head? == some '\'' then goOn ['\''] (c.skip 2)
        else some ([], c.skip 1)
      else if x == '\\' && quote == '"' then
        match (c.skip 1).break? with
        | some (_, c) =>
          let c := c.skipWhile isBlank
          (Gap.readBreaks 0 (c.rest.length + 1) c).bind fun b => goOn b.1 b.2
        | none => (escape? rest).bind fun e => goOn [e.1] (c.skip (e.2 + 1))
      else goOn [x] (c.skip 1)

/-- Characters that end a plain scalar inside flow collections. -/
def isFlowMark (c : Char) : Bool := ",[]\x7b\x7d".toList.contains c

/-- The characters of a plain scalar up to the next blank, line break or end of the scalar. In a
flow collection no colon may stand right in front of a mark or a question mark. -/
def plainRun? (inFlow : Bool) : List Char → Option (List Char)
  | [] => some []
  | x :: rest =>
    if isBlank x || isBreak x then some []
    else if inFlow && x == ':' && rest.head?.any (fun y => y == '?' || isFlowMark y) then none
    else if x == ':' && endsWord rest || inFlow && isFlowMark x then some []
    else (plainRun? inFlow rest).map (x :: ·)

/-- A plain scalar: what follows the given text, whether line breaks follow the scalar, and the
place behind them. Its further lines have the given indentation at least. -/
def readPlain (inFlow : Bool) (indent : Nat) : Nat → Gap → Cursor →
    Option (List Char × Bool × Cursor)
  | 0, _, _ => none
  | fuel + 1, before, c => do
    let broken := !before.breaks.isEmpty
    if c.isAtBoundary || c.peek? == some '#' then return ([], broken, c)
    let run ← plainRun? inFlow c.rest
    if run.isEmpty then return ([], broken, c)
    let text := before.text ++ run
    let c := c.skip run.length
    if !(c.peek?.any fun x => isBlank x || isBreak x) then return (text, false, c)
    let (gap, c) ← Gap.read indent c
    if !inFlow && c.column < indent then return (text, !gap.breaks.isEmpty, c)
    let (more, broken, c) ← readPlain inFlow indent fuel gap c
    return (text ++ more, broken, c)

end MultiCluster.Yaml
