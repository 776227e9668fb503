import MultiCluster.Text.Blank
import MultiCluster.Word

/-! Whole numbers in decimal digits: an optional sign, then one or more ASCII digits, within the
range of a machine word. No blanks, separators or other bases. -/
namespace MultiCluster.Text

def digit? (c : Char) : Option Nat :=
  if c.isDigit then some (c.toNat - '0'.toNat) else none

/-- The number that a list of ASCII digits writes, most significant first. -/
def digitsValue (cs : List Char) : Nat :=
  cs.foldl (fun n c => n * 10 + (c.toNat - '0'.toNat)) 0

/-- One or more digits and nothing else. -/
def readDigits (cs : List Char) : Option Nat :=
  if cs.isEmpty || !cs.all Char.isDigit then none else some (digitsValue cs)

/-- An unsigned number of the given width in bits; a plus sign may stand in front. -/
def readUnsigned (width : Nat) (cs : List Char) : Option Nat :=
  (readDigits (match cs with | '+' :: rest => rest | _ => cs)).bind (Word.unsigned? width)

/-- A signed number of the given width in bits. -/
def readSigned (width : Nat) (cs : List Char) : Option Int := do
  let i ← match cs with
    | '-' :: rest => (readDigits rest).map fun n => -(n : Int)
    | '+' :: rest => (readDigits rest).map fun n => (n : Int)
    | _ => (readDigits cs).map fun n => (n : Int)
  Word.signed? width i

/-- The hexadecimal value of a digit or of a letter up to F in either case. -/
def hexDigit? (c : Char) : Option Nat :=
  if c.isDigit then some (c.toNat - '0'.toNat)
  else if 'a' ≤ c ∧ c ≤ 'f' then some (c.toNat - 'a'.toNat + 10)
  else if 'A' ≤ c ∧ c ≤ 'F' then some (c.toNat - 'A'.toNat + 10)
  else none

/-- The number that digits to a base of up to sixteen write; no digits write zero. -/
def digitsInBase? (base : Nat) (cs : List Char) : Option Nat :=
  cs.foldlM (fun n c => (hexDigit? c).bind fun d => if d < base then some (n * base + d) else none)
    0

/-- The character whose number is written in so many hexadecimal digits, and what follows them. -/
def readCodePoint (count : Nat) (cs : List Char) : Option (Char × List Char) := do
  let digits := cs.take count
  if digits.length < count then none
  let n ← digitsInBase? 16 digits
  if n < 0xD800 || (0xDFFF < n && n ≤ 0x10FFFF) then some (Char.ofNat n, cs.drop count) else none

/-- A digit below sixteen as a character, letters in lower case. -/
def hexChar (n : Nat) : Char :=
  if n < 10 then Char.ofNat ('0'.toNat + n) else Char.ofNat ('a'.toNat + (n - 10))

/-- The number in hexadecimal with exactly `width` digits, the higher ones dropped. -/
def hexFixed (width n : Nat) : String :=
  String.ofList ((List.range width).reverse.map fun i => hexChar (n / Nat.pow 16 i % 16))

def hexText (n : Nat) : String := hexFixed (n.log2 / 4 + 1) n

end MultiCluster.Text
