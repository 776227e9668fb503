import MultiCluster.Text.Numeral
import MultiCluster.Yaml.Cursor
import MultiCluster.Yaml.Token

/-! Tokens that name something: anchors, aliases, tags and directives. -/
namespace MultiCluster.Yaml

open Text

/-- The name of an anchor behind its mark. -/
def readAnchorName (c : Cursor) : Option (String × Cursor) :=
  let (name, c) := c.span isNameChar
  let isOver := endsWord c.rest || c.peek?.any ("?:,]\x7d%@\x60".toList.contains ·)
  if name.isEmpty || !isOver then none else some (String.ofList name, c)

/-- How many octets a character takes whose first octet is given. -/
def octetCount? (octet : Nat) : Option Nat :=
  if octet < 0x80 then some 1
  else if octet < 0xC0 then none
  else if octet < 0xE0 then some 2
  else if octet < 0xF0 then some 3
  else if octet < 0xF8 then some 4
  else none

/-- Characters of tags. Some marks are allowed only in tags that are written out. -/
def isTagChar (isVerbatim : Bool) (c : Char) : Bool :=
  isNameChar c || ";/?:@&=+$.!~*'()".toList.contains c || (isVerbatim && ",[]".toList.contains c)

/-- The octets of a tag and the place behind them. A percent sign escapes an octet; `needed` counts
those that the character begun still lacks. -/
def readTagOctets (isVerbatim : Bool) : Nat → Nat → Cursor → Option (Tag × Cursor)
  | 0, _, _ => none
  | fuel + 1, needed, c =>
    match c.rest with
    | '%' :: a :: b :: _ => do
      let octet := 16 * (← hexDigit? a) + (← hexDigit? b)
      let needed ←
        if needed = 0 then (octetCount? octet).map (· - 1)
        else if octet / 64 = 2 then some (needed - 1)
        else none
      let (octets, c) ← readTagOctets isVerbatim fuel needed (c.skip 3)
      return (UInt8.ofNat octet :: octets, c)
    | rest =>
      if needed ≠ 0 || rest.head? == some '%' then none
      else
        match rest.head?.filter (isTagChar isVerbatim) with
        | some x =>
          (readTagOctets isVerbatim fuel 0 (c.skip 1)).map fun r =>
            (UInt8.ofNat x.toNat :: r.1, r.2)
        | none => some ([], c)

/-- A part of a tag: octets up to the first that is zero. Unless it may be empty, there is something
to read. -/
def readTagPart (isVerbatim mayBeEmpty : Bool) (c : Cursor) : Option (Tag × Cursor) := do
  let (octets, next) ← readTagOctets isVerbatim (c.rest.length + 1) 0 c
  if octets.isEmpty && !mayBeEmpty then none
  return (octets.takeWhile (· ≠ 0), next)

/-- The characters between two exclamation marks, the second of which may be missing. -/
def readHandle (c : Cursor) : List Char × Bool × Cursor :=
  let (name, c) := (c.skip 1).span isNameChar
  if c.peek? == some '!' then (name, true, c.skip 1) else (name, false, c)

/-- A tag at its exclamation mark and the place behind it. -/
def readTag (isInFlow : Bool) (c : Cursor) : Option (Token × Cursor) := do
  let (token, c) ←
    if c.rest[1]? == some '<' then do
      let (tag, c) ← readTagPart true false (c.skip 2)
      if c.peek? == some '>' then some (Token.tag "" tag, c.skip 1) else none
    else
      match readHandle c with
      | (name, true, c) => do
        let (tag, c) ← readTagPart false false c
        some (Token.tag (String.ofList ('!' :: name ++ ['!'])) tag, c)
      | (name, false, c) => do
        let (tag, c) ← readTagPart false true c
        let tag := name.map (fun x => UInt8.ofNat x.toNat) ++ tag
        some (if tag.isEmpty then Token.tag "" [33] else Token.tag "!" tag, c)
  if endsWord c.rest || (isInFlow && c.peek? == some ',') then return (token, c) else none

/-- A number of a version: up to nine digits. -/
def readVersionNumber (c : Cursor) : Option (Nat × Cursor) := do
  let (digits, c) := c.span Char.isDigit
  if digits.length > 9 then none
  return (← readDigits digits, c)

/-- A directive at its percent sign and the start of the next line. -/
def readDirective (c : Cursor) : Option (Token × Cursor) := do
  let (name, c) := (c.skip 1).span isNameChar
  if !endsWord c.rest then none
  let c := c.skipWhile isBlank
  let (token, c) ←
    if name == "YAML".toList then do
      let (major, c) ← readVersionNumber c
      if c.peek? ≠ some '.' then none
      let (minor, c) ← readVersionNumber (c.skip 1)
      some (Token.version major minor, c)
    else if name == "TAG".toList then do
      if c.peek? ≠ some '!' then none
      let (name, isClosed, c) := readHandle c
      if (!isClosed && !name.isEmpty) || !c.peek?.any isBlank then none
      let (start, c) ← readTagPart true false (c.skipWhile isBlank)
      if !endsWord c.rest then none
      let handle := if isClosed then '!' :: name ++ ['!'] else ['!']
      some (Token.handle (String.ofList handle) start, c)
    else none
  return (token, ← c.endLine?)

end MultiCluster.Yaml
