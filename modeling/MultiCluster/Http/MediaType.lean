import MultiCluster.Text.Split

/-! Types of content: two names, the second perhaps with a suffix behind a plus sign, and parameters
behind semicolons. -/
namespace MultiCluster.Http

/-- A type of content in lower case. -/
structure MediaType where
  main : String
  sub : String
  suffix : Option String
  deriving DecidableEq, Repr

namespace MediaType

def isTokenChar (c : Char) : Bool := c.isAlphanum || "!#$%&'+-.^_\x60|~".toList.contains c

/-- Characters that may stand in quotes. -/
def isQuotable (c : Char) : Bool := 0x20 ≤ c.toNat && c.toNat < 0x7F

/-- The rest behind a value in quotes whose first quote has been read. A backslash stands in front
of a character that is taken as it is. -/
def skipQuoted : List Char → Option (List Char)
  | [] => none
  | '"' :: rest => some rest
  | '\\' :: c :: rest => if isQuotable c then skipQuoted rest else none
  | c :: rest => if isQuotable c then skipQuoted rest else none

/-- The rest behind the value of a parameter, up to a semicolon or the end. In quotes it is not
empty, so a quote right behind the first is part of it, and it may have blanks behind it; a plain
one may be empty only at the end. -/
def skipValue : List Char → Option (List Char)
  | '"' :: '"' :: rest | '"' :: rest =>
    (skipQuoted rest).map fun tail => tail.dropWhile (· == ' ')
  | cs =>
    let tail := cs.dropWhile isTokenChar
    if tail.length = cs.length && !cs.isEmpty then none else some tail

/-- Whether what follows a type is sound: parameters with a name and a value. -/
def areParameters : Nat → List Char → Bool
  | 0, _ => false
  | _ + 1, [] => true
  | fuel + 1, ';' :: rest =>
    let rest := rest.dropWhile (· == ' ')
    rest.isEmpty ||
      match rest.takeWhile isTokenChar, rest.dropWhile isTokenChar with
      | _ :: _, '=' :: value => (skipValue value).any (areParameters fuel)
      | _, _ => false
  | _ + 1, _ :: _ => false

/-- Splits off what follows the last plus sign that is not the first character. -/
def splitSuffix (name : List Char) : List Char × Option (List Char) :=
  match name.reverse.span (· != '+') with
  | (suffix, '+' :: front) =>
    if front.isEmpty then (name, none) else (front.reverse, some suffix.reverse)
  | _ => (name, none)

def parse? (s : String) : Option MediaType := do
  let cs := s.toList
  let main := cs.takeWhile isTokenChar
  match cs.drop main.length with
  | '/' :: rest =>
    let second := rest.takeWhile isTokenChar
    let tail := rest.drop second.length
    if main.isEmpty || second.isEmpty || !areParameters (tail.length + 1) tail then none
    let (sub, suffix) := splitSuffix second
    let text (name : List Char) : String := String.ofList (name.map Char.toLower)
    return { main := text main, sub := text sub, suffix := suffix.map text }
  | _ => none

/-- Whether content of the type is JSON: that of an application whose second name or suffix says
so. -/
def isJson (t : MediaType) : Bool :=
  t.main = "application" && (t.sub = "json" || t.suffix = some "json")

end MediaType
end MultiCluster.Http
