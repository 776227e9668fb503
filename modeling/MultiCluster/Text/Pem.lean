import MultiCluster.Text.Base64
import MultiCluster.Text.Blank
import MultiCluster.Text.Split

/-! Blocks of octets in text form, each between a line that says what begins and one that says what
ends, and the outer form of the certificates that such blocks hold. -/
namespace MultiCluster.Text

/-- A block: what it holds, and the octets. -/
structure PemBlock where
  label : String
  contents : List UInt8
  deriving DecidableEq, Repr

/-- What is in front of the first occurrence of a text, and what follows it. -/
def splitAt? (mark : List Char) : List Char → Option (List Char × List Char)
  | [] => if mark.isEmpty then some ([], []) else none
  | c :: rest =>
    if mark.isPrefixOf (c :: rest) then some ([], (c :: rest).drop mark.length)
    else (splitAt? mark rest).map fun r => (c :: r.1, r.2)

namespace PemBlock

/-- The body of a block behind its headers, which end at an empty line. -/
def withoutHeaders (body : List Char) : List Char :=
  ((splitAt? ['\n', '\n'] body).map Prod.snd).getD body

/-- The digits of a body, whose lines may have blanks at their ends. -/
def digits (body : List Char) : List Char := (splitAll '\n' body).flatMap trimEnd

/-- The block at the front of a text and what follows it; nothing inside if the block is faulty:
without a label, ended under another one, or not in base 64. Without a block there is nothing. -/
def read (cs : List Char) : Option (Option PemBlock × List Char) := do
  let dashes := "-----".toList
  let (_, cs) ← splitAt? "-----BEGIN ".toList cs
  let (label, cs) ← splitAt? dashes cs
  let (body, cs) ← splitAt? "-----END ".toList (trimStart cs)
  let (ended, cs) ← splitAt? dashes cs
  let contents? := base64Octets? (digits (withoutHeaders body))
  if label.isEmpty || label ≠ ended then return (none, cs)
  return (contents?.map fun contents => ⟨String.ofList label, contents⟩, cs)

/-- All blocks of a text, if none is faulty. -/
def readAll : Nat → List Char → Option (List PemBlock)
  | 0, _ => some []
  | fuel + 1, cs =>
    match read cs with
    | none => some []
    | some (none, _) => none
    | some (some block, rest) => (readAll fuel rest).map (block :: ·)

/-- The blocks that octets write, all of whose delimiters are ASCII. -/
def ofOctets? (octets : List UInt8) : Option (List PemBlock) :=
  let cs := octets.map fun o => Char.ofNat o.toNat
  readAll (cs.length + 1) cs

end PemBlock

def octetsValue (octets : List UInt8) : Nat := octets.foldl (fun n o => n * 256 + o.toNat) 0

/-- An element of the binary form of certificates: its kind, its contents, and what follows. The
length is written in one octet below 128, or behind an octet that counts its octets. -/
def derElement? : List UInt8 → Option (UInt8 × List UInt8 × List UInt8)
  | kind :: size :: rest =>
    let count := if size.toNat < 128 then 0 else size.toNat - 128
    let length := if count = 0 then size.toNat else octetsValue (rest.take count)
    let rest := rest.drop count
    if size.toNat = 128 || rest.length < length then none
    else some (kind, rest.take length, rest.drop length)
  | _ => none

/-- Whether octets have the outer form of a private key: a number that says how it is written, and
what is written so. -/
def isPrivateKey (octets : List UInt8) : Bool :=
  let form : Option (UInt8 × UInt8 × Bool) := do
    let (outer, contents, rest) ← derElement? octets
    let (number, _, contents) ← derElement? contents
    some (outer, number, rest.isEmpty && !contents.isEmpty)
  form == some (0x30, 0x02, true)

/-- Whether octets have the outer form of a certificate: what is certified, how it is signed, and
the signature. -/
def isCertificate (octets : List UInt8) : Bool :=
  let kinds : Option (List UInt8) := do
    let (outer, contents, rest) ← derElement? octets
    let (body, _, contents) ← derElement? contents
    let (algorithm, _, contents) ← derElement? contents
    let (signature, _, contents) ← derElement? contents
    if rest.isEmpty && contents.isEmpty then some [outer, body, algorithm, signature] else none
  kinds == some [0x30, 0x30, 0x30, 0x03]

end MultiCluster.Text
