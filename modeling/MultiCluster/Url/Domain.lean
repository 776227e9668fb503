import MultiCluster.Text.Split
import MultiCluster.Url.Domain.Direction
import MultiCluster.Url.Domain.Joiner
import MultiCluster.Url.Domain.Mapping
import MultiCluster.Url.Punycode

/-! Domains in characters of all kinds, and how they are told in ASCII: a label with other
characters becomes a code behind a mark. -/
namespace MultiCluster.Url.Domain

open Text

/-- What a label starts with that is a code. -/
def codeMark : List Char := ['x', 'n', '-', '-']

/-- Codes longer than this are not read. -/
def maxCode : Nat := 2000

/-- Labels with characters outside ASCII are no longer than this. -/
def maxLabel : Nat := 1000

def isAscii (cs : List Char) : Bool := cs.all (·.toNat < 0x80)

/-- What a character stands for, if it may be in a domain. -/
def meaning? (c : Char) : Option (List Char) :=
  match replacement? c with
  | some cs => some cs
  | none => if isExcluded c then none else some [c]

/-- Whether a character may be in a domain and stands for itself. -/
def isPlain (c : Char) : Bool := meaning? c == some [c]

/-- What a text stands for, in composed form. -/
def meaningOf? (cs : List Char) : Option (List Char) := do
  let text := (← cs.mapM meaning?).flatten
  return if isAscii text then text else composed text

/-- The label that a code stands for. Only labels that need a code have one, and what they hold is
written there as it is meant. -/
def decode? (code : List Char) : Option (List Char) := do
  if !isAscii code || code.getLast? = some '-' || code.length > maxCode then none
  let label ← Punycode.decode? code
  if isAscii label || codeMark.isPrefixOf label || !label.all isPlain || composed label ≠ label then
    none
  return label

/-- The label as it is meant. -/
def decodeLabel? (label : List Char) : Option (List Char) :=
  if codeMark.isPrefixOf label then decode? (label.drop codeMark.length) else some label

/-- Whether the characters of a label stand where they may. Any order will do in ASCII. -/
def isSound (label : List Char) : Bool :=
  isAscii label || (!label.head?.any isMark && joinersFit [] label && label.length ≤ maxLabel)

/-- The label in ASCII. -/
def encodeLabel (label : List Char) : List Char :=
  if isAscii label then label else codeMark ++ Punycode.encode label

/-- The domain of a text, in ASCII. -/
def ascii? (cs : List Char) : Option (List Char) := do
  let text ← meaningOf? cs
  if text.any isForbidden then none
  let labels ← (splitAll '.' text).mapM decodeLabel?
  if !labels.all isSound then none
  if labels.any isBidirectional && !labels.all runsOneWay then none
  return ['.'].intercalate (labels.map encodeLabel)

end MultiCluster.Url.Domain
