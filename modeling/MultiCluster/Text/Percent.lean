import MultiCluster.Text.Numeral
import MultiCluster.Text.Split
import MultiCluster.Text.Utf8

/-! Percent-encoding of texts in addresses, and the parameters of a query. -/
namespace MultiCluster.Text

def percentSign : UInt8 := 0x25

/-- The value of an octet that writes a hexadecimal digit. -/
def hexOctet? (octet : UInt8) : Option Nat := hexDigit? (Char.ofNat octet.toNat)

/-- Undoes percent-encoding; a percent sign without two digits after it stands for itself. -/
def percentDecode : List UInt8 → List UInt8
  | [] => []
  | [a] => [a]
  | [a, b] => [a, b]
  | a :: b :: c :: rest =>
    if a = percentSign then
      match hexOctet? b, hexOctet? c with
      | some high, some low => UInt8.ofNat (high * 16 + low) :: percentDecode rest
      | _, _ => a :: percentDecode (b :: c :: rest)
    else a :: percentDecode (b :: c :: rest)

/-- The characters that percent-encoding keeps. -/
def isUnreserved (c : Char) : Bool :=
  c.isAlphanum || c == '-' || c == '_' || c == '.' || c == '~'

/-- An octet as a percent sign and two digits, letters in upper case. -/
def percentOctet (octet : UInt8) : List Char :=
  ['%', (hexChar (octet.toNat / 16)).toUpper, (hexChar (octet.toNat % 16)).toUpper]

/-- Encodes all characters but the unreserved ones. -/
def percentEncode (s : String) : String :=
  String.ofList (s.toList.flatMap fun c =>
    if isUnreserved c then [c] else (String.utf8EncodeChar c).flatMap percentOctet)

/-- The text that a percent-encoded one stands for, if it is UTF-8. -/
def percentText? (s : String) : Option String := utf8Text? (percentDecode (utf8Octets s))

/-- A name or value of a query: a plus sign stands for a space and what is no UTF-8 is replaced. -/
def queryText (cs : List Char) : String :=
  let spaced := cs.map fun c => if c = '+' then ' ' else c
  utf8TextLossy (percentDecode (spaced.flatMap String.utf8EncodeChar))

/-- The parameters of a query: parts between ampersands, names and values between equals signs.
Empty parts are left out. -/
def queryPairs (query : String) : List (String × String) :=
  ((splitAll '&' query.toList).filter (!·.isEmpty)).map fun part =>
    let (name, value) := splitFirst '=' part
    (queryText name, queryText value)

end MultiCluster.Text
