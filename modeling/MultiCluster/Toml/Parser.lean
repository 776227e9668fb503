import MultiCluster.Binary64.Reading
import MultiCluster.Timestamp
import MultiCluster.Toml

/-! Reading TOML documents. A moment is read as an object with one member, so that it is neither a
text nor a number. -/
namespace MultiCluster.Toml

open Text

abbrev Reader (α : Type) := List Char → Option (α × List Char)

def skipBlanks (cs : List Char) : List Char := cs.dropWhile fun c => c == ' ' || c == '\t'

def lineEnd? : List Char → Option (List Char)
  | '\n' :: rest => some rest
  | '\r' :: '\n' :: rest => some rest
  | _ => none

/-- Whether a character may stand in comments and strings: all but controls, of which a tab may. -/
def isPlain (c : Char) : Bool := c == '\t' || (0x20 ≤ c.toNat && c != '\x7f')

/-- Drops a comment, if one follows. -/
def skipComment : List Char → List Char
  | '#' :: rest => rest.dropWhile isPlain
  | cs => cs

/-- The rest of the document behind blanks, a comment and the end of the line. -/
def finishLine (cs : List Char) : Option (List Char) :=
  match skipComment (skipBlanks cs) with
  | [] => some []
  | rest => lineEnd? rest

/-- Drops blanks, comments and line ends. -/
def skipLines : Nat → List Char → List Char
  | 0, cs => cs
  | fuel + 1, cs =>
    let rest := skipComment (skipBlanks cs)
    match lineEnd? rest with
    | some tail => skipLines fuel tail
    | none => rest

/-- The character of an escape whose backslash has been read. -/
def readEscape : Reader Char
  | 'b' :: rest => some ('\x08', rest)
  | 't' :: rest => some ('\t', rest)
  | 'n' :: rest => some ('\n', rest)
  | 'f' :: rest => some ('\x0c', rest)
  | 'r' :: rest => some ('\r', rest)
  | '"' :: rest => some ('"', rest)
  | '\\' :: rest => some ('\\', rest)
  | 'u' :: rest => readCodePoint 4 rest
  | 'U' :: rest => readCodePoint 8 rest
  | _ => none

/-- The rest of a string on one line; escapes count if the quotes are double ones. -/
def readShort (quote : Char) : Nat → List Char → Reader String
  | 0, _, _ => none
  | _ + 1, _, [] => none
  | fuel + 1, seen, c :: rest =>
    if c = quote then some (String.ofList seen.reverse, rest)
    else if c = '\\' ∧ quote = '"' then do
      let (e, rest) ← readEscape rest
      readShort quote fuel (e :: seen) rest
    else if isPlain c then readShort quote fuel (c :: seen) rest
    else none

/-- Drops blanks and line ends. -/
def skipFolded (cs : List Char) : List Char :=
  cs.dropWhile fun c => c == ' ' || c == '\t' || c == '\n' || c == '\r'

/-- The rest of a string over several lines. Up to two quotes may stand in front of the three that
end it; a backslash at the end of a line joins the lines. -/
def readLong (quote : Char) : Nat → List Char → Reader String
  | 0, _, _ => none
  | _ + 1, _, [] => none
  | fuel + 1, seen, c :: rest =>
    if c = quote then
      let quotes := (c :: rest).takeWhile (· == quote)
      if quotes.length ≥ 3 then
        let extra := min (quotes.length - 3) 2
        some (String.ofList (seen.reverse ++ List.replicate extra quote),
          (c :: rest).drop (extra + 3))
      else readLong quote fuel (c :: seen) rest
    else if c = '\\' ∧ quote = '"' then
      match lineEnd? (skipBlanks rest) with
      | some tail => readLong quote fuel seen (skipFolded tail)
      | none => do
        let (e, rest) ← readEscape rest
        readLong quote fuel (e :: seen) rest
    else match lineEnd? (c :: rest) with
      | some tail => readLong quote fuel ('\n' :: seen) tail
      | none => if isPlain c then readLong quote fuel (c :: seen) rest else none

def readString : Reader String
  | '"' :: '"' :: '"' :: rest => readLong '"' (rest.length + 1) [] ((lineEnd? rest).getD rest)
  | '\'' :: '\'' :: '\'' :: rest => readLong '\'' (rest.length + 1) [] ((lineEnd? rest).getD rest)
  | '"' :: rest => readShort '"' (rest.length + 1) [] rest
  | '\'' :: rest => readShort '\'' (rest.length + 1) [] rest
  | _ => none

def isKeyChar (c : Char) : Bool := c.isAlphanum || c == '_' || c == '-'

def readPart (cs : List Char) : Option (String × List Char) :=
  match cs with
  | '"' :: rest => readShort '"' (rest.length + 1) [] rest
  | '\'' :: rest => readShort '\'' (rest.length + 1) [] rest
  | _ =>
    let part := cs.takeWhile isKeyChar
    if part.isEmpty then none else some (String.ofList part, cs.dropWhile isKeyChar)

/-- Parts between points, with blanks around them. -/
def readParts : Nat → Reader (List String)
  | 0, _ => none
  | fuel + 1, cs => do
    let (part, rest) ← readPart (skipBlanks cs)
    match skipBlanks rest with
    | '.' :: tail => do
      let (parts, tail) ← readParts fuel tail
      return (part :: parts, tail)
    | tail => return ([part], tail)

/-- Keys have fewer parts than this, and values are nested less deeply. -/
def depthLimit : Nat := 80

def readKey (cs : List Char) : Option (List String × List Char) := do
  let (parts, rest) ← readParts (cs.length + 1) cs
  if parts.length < depthLimit then some (parts, rest) else none

/-- Digits without the underscores between them; an underscore needs a digit on either side. -/
def plainDigits (isDigit : Char → Bool) : List Char → Option (List Char)
  | [] => none
  | [c] => if isDigit c then some [c] else none
  | c :: '_' :: rest => if isDigit c then (plainDigits isDigit rest).map (c :: ·) else none
  | c :: rest => if isDigit c then (plainDigits isDigit rest).map (c :: ·) else none

/-- An integer of 64 bits in a base other than ten. -/
def basedInteger (base : Nat) (cs : List Char) : Option Json := do
  let isDigit (c : Char) : Bool := ((hexDigit? c).map fun d => decide (d < base)).getD false
  let digits ← plainDigits isDigit cs
  let n ← digitsInBase? base digits
  (Word.signed? 64 n).map .int

/-- Digits that do not start with a needless zero. -/
def wholeDigits (cs : List Char) : Option (List Char) := do
  let digits ← plainDigits Char.isDigit cs
  if digits.length > 1 && digits.head? = some '0' then none else some digits

/-- What ends the whole part of a number or its fraction. -/
def isMark (c : Char) : Bool := c == '.' || c == 'e' || c == 'E'

/-- An exponent, with a sign or not. -/
def readPower (cs : List Char) : Option Int :=
  match cs with
  | '-' :: digits => (plainDigits Char.isDigit digits).map fun d => -(digitsValue d : Int)
  | '+' :: digits => (plainDigits Char.isDigit digits).map fun d => (digitsValue d : Int)
  | _ => (plainDigits Char.isDigit cs).map fun d => (digitsValue d : Int)

/-- The digits behind a point and the exponent behind these, if there is one. -/
def readFraction (cs : List Char) : Option (List Char × Int) := do
  let fraction ← plainDigits Char.isDigit (cs.takeWhile (!isMark ·))
  match cs.dropWhile (!isMark ·) with
  | [] => some (fraction, 0)
  | mark :: power => if mark = '.' then none else (readPower power).map (fraction, ·)

/-- A decimal integer of 64 bits, or a double with a fraction or an exponent. -/
def decimalNumber (negative : Bool) (cs : List Char) : Option Json := do
  let whole ← wholeDigits (cs.takeWhile (!isMark ·))
  match cs.dropWhile (!isMark ·) with
  | [] =>
    let n := digitsValue whole
    let i : Int := if negative then -n else n
    (Word.signed? 64 i).map .int
  | mark :: rest => do
    let (fraction, exponent) ←
      if mark = '.' then readFraction rest else (readPower rest).map ([], ·)
    some (.real (Binary64.ofDecimal negative (digitsValue (whole ++ fraction))
      (exponent - fraction.length)))

def number? (cs : List Char) : Option Json :=
  match cs with
  | '0' :: 'x' :: digits => basedInteger 16 digits
  | '0' :: 'o' :: digits => basedInteger 8 digits
  | '0' :: 'b' :: digits => basedInteger 2 digits
  | _ =>
    let (negative, magnitude) := match cs with
      | '-' :: rest => (true, rest)
      | '+' :: rest => (false, rest)
      | _ => (false, cs)
    match magnitude with
    | ['i', 'n', 'f'] => some (.real (.infinite negative))
    | ['n', 'a', 'n'] => some (.real .nan)
    | _ => decimalNumber negative magnitude

/-- Two digits that write a number up to a bound. -/
def twoDigits (low high : Nat) (cs : List Char) : Option (List Char) := do
  let n ← readDigits (cs.take 2)
  if (cs.take 2).length = 2 && low ≤ n && n ≤ high then some (cs.drop 2) else none

def skipDate (cs : List Char) : Option (List Char) := do
  let year ← readDigits (cs.take 4)
  match cs.drop 4 with
  | '-' :: rest =>
    let month ← readDigits (rest.take 2)
    match ← twoDigits 1 12 rest with
    | '-' :: rest => twoDigits 1 (Timestamp.daysInMonth year month) rest
    | _ => none
  | _ => none

def skipTime (cs : List Char) : Option (List Char) := do
  match ← twoDigits 0 23 cs with
  | ':' :: rest =>
    match ← twoDigits 0 59 rest with
    | ':' :: rest =>
      match ← twoDigits 0 60 rest with
      | '.' :: rest =>
        let digits := rest.takeWhile Char.isDigit
        if digits.isEmpty then none else some (rest.dropWhile Char.isDigit)
      | rest => some rest
    | _ => none
  | _ => none

/-- The rest behind a distance from UTC, if one follows. -/
def skipOffset (cs : List Char) : Option (List Char) :=
  match cs with
  | 'Z' :: rest | 'z' :: rest => some rest
  | sign :: rest =>
    if sign = '+' || sign = '-' then do
      match ← twoDigits 0 23 rest with
      | ':' :: rest => twoDigits 0 59 rest
      | _ => none
    else some cs
  | [] => some []

/-- The rest behind a moment: a date, a time, or both with an optional distance from UTC. -/
def skipMoment (cs : List Char) : Option (List Char) :=
  match skipDate cs with
  | none => skipTime cs
  | some ('T' :: rest) | some ('t' :: rest) => skipTime rest >>= skipOffset
  | some (' ' :: rest) =>
    match skipTime rest with
    | some tail => skipOffset tail
    | none => some (' ' :: rest)
  | some rest => some rest

/-- A moment as a value. -/
def moment (cs : List Char) : Json := .obj [("moment", .str (String.ofList cs))]

/-- Characters of numbers and words. -/
def isWordChar (c : Char) : Bool := isKeyChar c || c == '+' || c == '.'

def readWord (cs : List Char) : Option (Json × List Char) :=
  let word := cs.takeWhile isWordChar
  let rest := cs.dropWhile isWordChar
  match String.ofList word with
  | "true" => some (.bool true, rest)
  | "false" => some (.bool false, rest)
  | _ =>
    match skipMoment cs with
    | some tail => some (moment (cs.take (cs.length - tail.length)), tail)
    | none => (number? word).map (·, rest)

mutual

/-- A value inside as many others as given. -/
def readValue (depth : Nat) : Nat → Reader Json
  | 0, _ => none
  | fuel + 1, cs =>
    let inner := depth + 1
    match cs with
    | '"' :: _ | '\'' :: _ => (readString cs).map fun r => (.str r.1, r.2)
    | '[' :: rest =>
      if inner < depthLimit then (readItems inner fuel rest).map fun r => (.arr r.1, r.2) else none
    | '{' :: rest =>
      if inner < depthLimit then
        match skipBlanks rest with
        | '}' :: tail => some (.obj [], tail)
        | tail => (readPairs inner fuel [] tail).map fun r => (.obj (Item.entriesToJson r.1), r.2)
      else none
    | _ => readWord cs

/-- The items of an array up to its closing bracket, with line ends and comments between them. -/
def readItems (depth : Nat) : Nat → Reader (List Json)
  | 0, _ => none
  | fuel + 1, cs =>
    match skipLines cs.length cs with
    | ']' :: rest => some ([], rest)
    | start => do
      let (value, rest) ← readValue depth fuel start
      match skipLines rest.length rest with
      | ',' :: tail => (readItems depth fuel tail).map fun r => (value :: r.1, r.2)
      | ']' :: tail => some ([value], tail)
      | _ => none

/-- The pairs of a table within a line, up to its closing brace. -/
def readPairs (depth : Nat) : Nat → Entries → Reader Entries
  | 0, _, _ => none
  | fuel + 1, found, cs => do
    let (path, rest) ← readKey cs
    match skipBlanks rest with
    | '=' :: rest => do
      let (value, rest) ← readValue depth fuel (skipBlanks rest)
      let found ← found.assign path value
      match skipBlanks rest with
      | ',' :: tail => readPairs depth fuel found tail
      | '}' :: tail => some (found, tail)
      | _ => none
    | _ => none

end

def readLine (cs : List Char) : Option (Line × List Char) :=
  match cs with
  | '[' :: '[' :: rest => do
    let (path, rest) ← readKey rest
    match rest with
    | ']' :: ']' :: tail => some (.listHeader path, tail)
    | _ => none
  | '[' :: rest => do
    let (path, rest) ← readKey rest
    match rest with
    | ']' :: tail => some (.header path, tail)
    | _ => none
  | _ => do
    let (path, rest) ← readKey cs
    match rest with
    | '=' :: rest => do
      let start := skipBlanks rest
      let (value, tail) ← readValue 0 (2 * start.length + 2) start
      some (.assignment path value, tail)
    | _ => none

def readLines : Nat → Document → List Char → Option Document
  | 0, _, _ => none
  | fuel + 1, d, cs =>
    match skipLines (cs.length + 1) cs with
    | [] => some d
    | start => do
      let (line, rest) ← readLine start
      readLines fuel (← d.add line) (← finishLine rest)

def parse? (text : String) : Option Json :=
  let cs := match text.toList with
    | '\uFEFF' :: rest => rest
    | cs => cs
  (readLines (cs.length + 1) .empty cs).map Document.toJson

end MultiCluster.Toml
