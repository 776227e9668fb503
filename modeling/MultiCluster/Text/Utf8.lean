/-! UTF-8: decoding of octets into characters, octet by octet. A fault is a maximal run of octets
that starts a character and does not end it, or a single octet that starts none. -/
namespace MultiCluster.Text

/-- A character that has begun: how many octets are to come, the value so far and the bounds of the
next octet. -/
structure Begun where
  needed : Nat
  value : Nat
  low : Nat
  high : Nat
  deriving DecidableEq, Repr

/-- What the first octet of a character leads to: nothing valid, a whole character, or a begun one.
The bounds leave out overlong forms, surrogates and values past the last code point. -/
def beginChar (octet : Nat) : Option (Char ⊕ Begun) :=
  if octet < 0x80 then some (.inl (Char.ofNat octet))
  else if octet < 0xC2 then none
  else if octet < 0xE0 then some (.inr ⟨1, octet - 0xC0, 0x80, 0xBF⟩)
  else if octet = 0xE0 then some (.inr ⟨2, 0, 0xA0, 0xBF⟩)
  else if octet = 0xED then some (.inr ⟨2, 0xD, 0x80, 0x9F⟩)
  else if octet < 0xF0 then some (.inr ⟨2, octet - 0xE0, 0x80, 0xBF⟩)
  else if octet = 0xF0 then some (.inr ⟨3, 0, 0x90, 0xBF⟩)
  else if octet < 0xF4 then some (.inr ⟨3, octet - 0xF0, 0x80, 0xBF⟩)
  else if octet = 0xF4 then some (.inr ⟨3, 4, 0x80, 0x8F⟩)
  else none

/-- The characters that the octets write, with nothing in the place of every fault. -/
def decodeOctets : Option Begun → List UInt8 → List (Option Char)
  | none, [] => []
  | some _, [] => [none]
  | begun, octet :: rest =>
    let fresh (faults : List (Option Char)) : List (Option Char) :=
      match beginChar octet.toNat with
      | none => faults ++ none :: decodeOctets none rest
      | some (.inl c) => faults ++ some c :: decodeOctets none rest
      | some (.inr b) => faults ++ decodeOctets (some b) rest
    match begun with
    | none => fresh []
    | some b =>
      if b.low ≤ octet.toNat ∧ octet.toNat ≤ b.high then
        let value := b.value * 64 + (octet.toNat - 0x80)
        if b.needed ≤ 1 then some (Char.ofNat value) :: decodeOctets none rest
        else decodeOctets (some ⟨b.needed - 1, value, 0x80, 0xBF⟩) rest
      else fresh [none]

/-- The text that the octets write, if they are free of faults. -/
def utf8Text? (octets : List UInt8) : Option String :=
  ((decodeOctets none octets).mapM id).map String.ofList

/-- The text that the octets write, with the replacement character for every fault. -/
def utf8TextLossy (octets : List UInt8) : String :=
  String.ofList ((decodeOctets none octets).map (·.getD '\uFFFD'))

def utf8Octets (s : String) : List UInt8 := s.toList.flatMap String.utf8EncodeChar

end MultiCluster.Text
