import MultiCluster.Text.Percent
import MultiCluster.Url.Domain

/-! Hosts of addresses: domains, IPv4 addresses in their numeric spellings, IPv6 addresses and texts
that a scheme gives a meaning of its own. -/
namespace MultiCluster.Url

open Text

/-- Why a text is no address. -/
inductive Fault where
  | noScheme
  | emptyHost
  | port
  | ipv4
  | ipv6
  | domain
  | hostCharacter
  deriving DecidableEq, Repr

def Fault.message : Fault → String
  | noScheme => "relative URL without a base"
  | emptyHost => "empty host"
  | port => "invalid port number"
  | ipv4 => "invalid IPv4 address"
  | ipv6 => "invalid IPv6 address"
  | domain => "invalid international domain name"
  | hostCharacter => "invalid domain character"

/-- A host. A domain is in lower case and ASCII; an IPv6 address is a list of eight groups of 16
bits. -/
inductive Host where
  | domain (name : String)
  | ipv4 (address : Nat)
  | ipv6 (groups : List Nat)
  | other (text : String)
  deriving DecidableEq, Repr

namespace Host

/-- A part of an IPv4 address: hexadecimal behind 0x, octal behind 0, else decimal. -/
def ipv4Part : List Char → Option Nat
  | [] => none
  | '0' :: 'x' :: digits | '0' :: 'X' :: digits => digitsInBase? 16 digits
  | ['0'] => some 0
  | '0' :: digits => digitsInBase? 8 digits
  | digits => digitsInBase? 10 digits

/-- Whether a domain ends in a number and so has to be an IPv4 address. -/
def endsInNumber (domain : List Char) : Bool :=
  let parts := (splitAll '.' domain).reverse
  let last? := match parts with
    | [] :: [] => none
    | [] :: part :: _ => some part
    | part :: _ => some part
    | [] => none
  match last? with
  | some part => (!part.isEmpty && part.all Char.isDigit) || (ipv4Part part).isSome
  | none => false

/-- An IPv4 address of up to four parts, the last of which fills the rest. -/
def readIpv4 (domain : List Char) : Option Nat := do
  let parts := splitAll '.' domain
  let parts := if parts.getLast? = some [] then parts.dropLast else parts
  if parts.length > 4 then none
  let numbers ← parts.mapM ipv4Part
  let last ← numbers.getLast?
  let first := numbers.dropLast
  if first.any (· > 255) || last ≥ Nat.pow 256 (4 - first.length) then none
  return first.foldr (fun n sum => n * 0x1000000 + sum / 0x100) 0 + last

/-- A group of one to four hexadecimal digits. -/
def ipv6Group (cs : List Char) : Option Nat :=
  if cs.isEmpty || cs.length > 4 then none else digitsInBase? 16 cs

/-- Four decimal parts without leading zeros, as two groups. -/
def ipv6Tail (cs : List Char) : Option (List Nat) := do
  let numbers ← (splitAll '.' cs).mapM fun part =>
    if part.length > 1 && part.head? = some '0' then none else
    (readDigits part).bind fun n => if n ≤ 255 then some n else none
  match numbers with
  | [a, b, c, d] => some [a * 256 + b, c * 256 + d]
  | _ => none

/-- Groups between colons; the last one may be in decimal parts if that is allowed. -/
def ipv6Groups (tailAllowed : Bool) : List (List Char) → Option (List Nat)
  | [] => some []
  | [last] =>
    if tailAllowed && last.contains '.' then ipv6Tail last else (ipv6Group last).map ([·])
  | part :: rest => do return (← ipv6Group part) :: (← ipv6Groups tailAllowed rest)

/-- The text in front of and behind the first double colon, if there is one. -/
def splitGap : List Char → Option (List Char × List Char)
  | ':' :: ':' :: rest => some ([], rest)
  | c :: rest => (splitGap rest).map fun p => (c :: p.1, p.2)
  | [] => none

/-- The groups of one side of the gap; an empty side has none. -/
def ipv6Side (tailAllowed : Bool) (cs : List Char) : Option (List Nat) :=
  if cs.isEmpty then some [] else ipv6Groups tailAllowed (splitAll ':' cs)

/-- An IPv6 address of eight groups, of which a double colon stands for one or more zeros. -/
def readIpv6 (cs : List Char) : Option (List Nat) :=
  match splitGap cs with
  | none => do
    let groups ← ipv6Side true cs
    if groups.length = 8 then some groups else none
  | some (front, back) => do
    let first ← ipv6Side false front
    let last ← ipv6Side true back
    let given := first.length + last.length
    if given > 7 then none
    return first ++ List.replicate (8 - given) 0 ++ last

/-- The host of a scheme that gives hosts their usual meaning. -/
def parse (cs : List Char) : Except Fault Host :=
  match cs with
  | [] => .error .emptyHost
  | '[' :: inner =>
    if inner.getLast? = some ']' then
      match readIpv6 inner.dropLast with
      | some groups => .ok (.ipv6 groups)
      | none => .error .ipv6
    else .error .ipv6
  | _ => do
    let decoded := utf8TextLossy (percentDecode (cs.flatMap String.utf8EncodeChar))
    let some name := Domain.ascii? decoded.toList | throw .domain
    if name.isEmpty then throw .emptyHost
    if endsInNumber name then
      match readIpv4 name with
      | some address => return .ipv4 address
      | none => throw .ipv4
    return .domain (String.ofList name)

/-- The host of any other scheme. -/
def parseOther (cs : List Char) : Except Fault Host :=
  match cs with
  | '[' :: _ => parse cs
  | _ =>
    if cs.any Domain.isForbiddenInHost then .error .hostCharacter
    else .ok (.other (String.ofList cs))

def text : Host → String
  | .domain name => name
  | .other text => text
  | .ipv4 a => s!"{a / 0x1000000}.{a / 0x10000 % 256}.{a / 0x100 % 256}.{a % 256}"
  | .ipv6 groups => "[" ++ ":".intercalate (groups.map hexText) ++ "]"

end Host
end MultiCluster.Url
