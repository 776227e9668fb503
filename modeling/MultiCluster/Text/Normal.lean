import MultiCluster.Text.Normal.Table

/-! The composed form of a text: marks in the order of their classes, and every character that has a
code point of its own written as that. It is exact for characters of names on the web. -/
namespace MultiCluster.Text

/-- The class in a list of ranges in ascending order. -/
def classIn (n : Nat) : List (Nat × Nat × Nat) → Nat
  | [] => 0
  | (first, last, number) :: rest =>
    if n < first then 0 else if n ≤ last then number else classIn n rest

/-- The combining class of a character; 0 for those that start anew. -/
def combiningClass (c : Char) : Nat := classIn c.toNat classRanges

/-- The whole for a first part in a list of first parts and wholes. -/
def wholeIn (first : Char) : List Char → Option Char
  | part :: whole :: rest => if part = first then some whole else wholeIn first rest
  | _ => none

/-- The first part for a whole in a list of first parts and wholes. -/
def firstIn (composed : Char) : List Char → Option Char
  | part :: whole :: rest => if whole = composed then some part else firstIn composed rest
  | _ => none

/-- What two parts of a Hangul syllable make: the first two sounds, or those and a third. -/
def syllable? (a b : Char) : Option Char :=
  let m := a.toNat
  let n := b.toNat
  if 0x1100 ≤ m && m < 0x1113 && 0x1161 ≤ n && n < 0x1176 then
    some (Char.ofNat (0xAC00 + ((m - 0x1100) * 21 + (n - 0x1161)) * 28))
  else if 0xAC00 ≤ m && m ≤ 0xD7A3 && (m - 0xAC00) % 28 = 0 && 0x11A8 ≤ n && n < 0x11C3 then
    some (Char.ofNat (m + (n - 0x11A7)))
  else none

/-- The two parts of a Hangul syllable. -/
def syllableParts? (c : Char) : Option (Char × Char) :=
  let n := c.toNat
  let i := n - 0xAC00
  if n < 0xAC00 || 0xD7A3 < n then none
  else if i % 28 = 0 then some (Char.ofNat (0x1100 + i / 588), Char.ofNat (0x1161 + i % 588 / 28))
  else some (Char.ofNat (n - i % 28), Char.ofNat (0x11A7 + i % 28))

/-- The character that two make. -/
def compose? (a b : Char) : Option Char :=
  let row := compositions.filterMap fun r => if r.1 = b.toNat then wholeIn a r.2.toList else none
  row.head?.or (syllable? a b)

/-- The two characters that one is made of. -/
def parts? (c : Char) : Option (Char × Char) :=
  let row := compositions.filterMap fun r => (firstIn c r.2.toList).map (·, Char.ofNat r.1)
  row.head?.or (syllableParts? c)

/-- The parts of the parts of a character, down to the given depth. -/
def decomposed : Nat → Char → List Char
  | 0, c => [c]
  | depth + 1, c =>
    match parts? c with
    | some (a, b) => decomposed depth a ++ decomposed depth b
    | none => [c]

/-- No character has more parts within parts than this. -/
def maxDepth : Nat := 4

/-- Puts a character behind a text, given from the end on, but in front of marks of a higher
class. -/
def placeMark (c : Char) : List Char → List Char
  | [] => [c]
  | last :: front =>
    if combiningClass c ≠ 0 && combiningClass c < combiningClass last then
      last :: placeMark c front
    else c :: last :: front

/-- Composes what follows a character with it. What is kept between them is given from the end on,
and keeps back marks of its own class or a lower one. -/
def composeFrom (start : Char) (kept : List Char) : List Char → List Char
  | [] => start :: kept.reverse
  | c :: rest =>
    let isKeptBack := kept.head?.any fun last => combiningClass c ≤ combiningClass last
    match if isKeptBack then none else compose? start c with
    | some whole => composeFrom whole kept rest
    | none =>
      if combiningClass c = 0 then start :: kept.reverse ++ composeFrom c [] rest
      else composeFrom start (c :: kept) rest

def composed (cs : List Char) : List Char :=
  let parts := cs.flatMap (decomposed maxDepth)
  match (parts.foldl (fun front c => placeMark c front) []).reverse with
  | [] => []
  | c :: rest => composeFrom c [] rest

end MultiCluster.Text
