import MultiCluster.Binary64.Scaled
import MultiCluster.Json

/-! The parts of JSON text that hold no others: strings without lone surrogates and bare control
characters, and numbers. A whole number outside 64 bits is read as a double. -/
namespace MultiCluster.Json

open Text

abbrev Reader (α : Type) := List Char → Option (α × List Char)

/-- White space between tokens. -/
def isSpace (c : Char) : Bool := c == ' ' || c == '\n' || c == '\t' || c == '\r'

/-- Drops white space between tokens. -/
def skipSpace (cs : List Char) : List Char := cs.dropWhile isSpace

def expect (word : List Char) (cs : List Char) : Option (List Char) :=
  if word.isPrefixOf cs then some (cs.drop word.length) else none

/-- Four hexadecimal digits. -/
def readHex4 : Reader Nat
  | a :: b :: c :: d :: rest => do
    let value := (((← hexDigit? a) * 16 + (← hexDigit? b)) * 16 + (← hexDigit? c)) * 16
      + (← hexDigit? d)
    return (value, rest)
  | _ => none

/-- The character of an escape whose backslash has been read. A high surrogate needs a low one
after it. -/
def readEscape : Reader Char
  | '"' :: rest => some ('"', rest)
  | '\\' :: rest => some ('\\', rest)
  | '/' :: rest => some ('/', rest)
  | 'b' :: rest => some ('\x08', rest)
  | 'f' :: rest => some ('\x0c', rest)
  | 'n' :: rest => some ('\n', rest)
  | 'r' :: rest => some ('\r', rest)
  | 't' :: rest => some ('\t', rest)
  | 'u' :: rest => do
    let (unit, rest) ← readHex4 rest
    if unit < 0xD800 || 0xE000 ≤ unit then return (Char.ofNat unit, rest)
    if 0xDC00 ≤ unit then none
    let (low, rest) ← readHex4 (← expect ['\\', 'u'] rest)
    if low < 0xDC00 || 0xE000 ≤ low then none
    return (Char.ofNat (0x10000 + (unit - 0xD800) * 0x400 + (low - 0xDC00)), rest)
  | _ => none

/-- The rest of a string whose opening quote has been read; `seen` holds its characters so far,
last first. -/
def readStringTail : Nat → List Char → Reader String
  | 0, _, _ => none
  | _ + 1, _, [] => none
  | _ + 1, seen, '"' :: rest => some (String.ofList seen.reverse, rest)
  | fuel + 1, seen, '\\' :: rest => do
    let (c, rest) ← readEscape rest
    readStringTail fuel (c :: seen) rest
  | fuel + 1, seen, c :: rest =>
    if c.toNat < 0x20 then none else readStringTail fuel (c :: seen) rest

def readString : Reader String
  | '"' :: rest => readStringTail (rest.length + 1) [] rest
  | _ => none

/-- The whole part of a number: a zero alone, or digits that do not start with a zero. -/
def readWhole (cs : List Char) : Option (List Char × List Char) :=
  match cs.takeWhile Char.isDigit, cs.dropWhile Char.isDigit with
  | [], _ => none
  | '0' :: _ :: _, _ => none
  | digits, rest => some (digits, rest)

/-- One or more digits after a mark. -/
def readMarked (cs : List Char) : Option (List Char × List Char) :=
  match cs.takeWhile Char.isDigit with
  | [] => none
  | digits => some (digits, cs.dropWhile Char.isDigit)

/-- The exponent of a number, if one follows. -/
def readPower (cs : List Char) : Option (Option Int × List Char) :=
  match cs with
  | 'e' :: rest | 'E' :: rest => do
    let (negative, rest) := match rest with
      | '-' :: tail => (true, tail)
      | '+' :: tail => (false, tail)
      | _ => (false, rest)
    let (digits, rest) ← readMarked rest
    let n : Int := digitsValue digits
    return (some (if negative then -n else n), rest)
  | _ => some (none, cs)

/-- The leading digits that make up a number of 64 bits. -/
def leadingDigits : Nat → List Char → Nat × List Char
  | n, [] => (n, [])
  | n, c :: rest =>
    let next := n * 10 + (c.toNat - '0'.toNat)
    if next < Word.limit 64 then leadingDigits next rest else (n, c :: rest)

/-- The double that digits write: as many of them as fit 64 bits, scaled by the place of the last.
Digits in front of the point that do not fit count as places only, those behind it not at all. -/
def doubleOf (isNegative : Bool) (whole places : List Char) (power : Int) : Binary64 :=
  let (n, skipped) := leadingDigits 0 whole
  let (n, ignored) := leadingDigits n places
  let scaled :=
    Binary64.ofScaled n (power + skipped.length + ignored.length - places.length)
  if isNegative then scaled.neg else scaled

/-- A whole number as an integer if it fits 64 bits; minus zero is not an integer. -/
def wholeNumber (isNegative : Bool) (digits : List Char) : Json :=
  let n := digitsValue digits
  if isNegative then
    if n = 0 || n > Word.limit 63 then .real (doubleOf true digits [] 0) else .int (-n)
  else if n < Word.limit 64 then .int n else .real (doubleOf false digits [] 0)

/-- A number; one beyond the range of doubles is refused. -/
def readNumber (cs : List Char) : Option (Json × List Char) := do
  let (isNegative, cs) := match cs with
    | '-' :: rest => (true, rest)
    | _ => (false, cs)
  let (whole, cs) ← readWhole cs
  let (places, cs) ← match cs with
    | '.' :: rest => (readMarked rest).map fun r => (some r.1, r.2)
    | _ => some (none, cs)
  let (power, cs) ← readPower cs
  let value := match places, power with
    | none, none => wholeNumber isNegative whole
    | _, _ => .real (doubleOf isNegative whole (places.getD []) (power.getD 0))
  match value with
  | .real x => if x.isFinite then return (value, cs) else none
  | _ => return (value, cs)

end MultiCluster.Json
