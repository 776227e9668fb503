/-! Octets written in the 64 common characters, four for every three octets. -/
namespace MultiCluster.Text

/-- The value of a digit to base 64. -/
def base64Digit? (c : Char) : Option Nat :=
  if c.isUpper then some (c.toNat - 'A'.toNat)
  else if c.isLower then some (c.toNat - 'a'.toNat + 26)
  else if c.isDigit then some (c.toNat - '0'.toNat + 52)
  else if c = '+' then some 62
  else if c = '/' then some 63
  else none

/-- The three octets that four digits write. -/
def octetsOfGroup (a b c d : Nat) : List UInt8 :=
  [UInt8.ofNat (a * 4 + b / 16), UInt8.ofNat (b % 16 * 16 + c / 4), UInt8.ofNat (c % 4 * 64 + d)]

/-- The octets that a text writes. The last group is padded to four characters, and the bits that no
octet needs are zero. -/
def base64Octets? : List Char → Option (List UInt8)
  | [] => some []
  | [a, b, '=', '='] => do
    let a ← base64Digit? a
    let b ← base64Digit? b
    if b % 16 = 0 then some ((octetsOfGroup a b 0 0).take 1) else none
  | [a, b, c, '='] => do
    let a ← base64Digit? a
    let b ← base64Digit? b
    let c ← base64Digit? c
    if c % 4 = 0 then some ((octetsOfGroup a b c 0).take 2) else none
  | a :: b :: c :: d :: rest => do
    let group := octetsOfGroup (← base64Digit? a) (← base64Digit? b) (← base64Digit? c)
      (← base64Digit? d)
    return group ++ (← base64Octets? rest)
  | _ => none

end MultiCluster.Text
