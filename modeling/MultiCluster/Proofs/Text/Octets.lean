import Mathlib.Data.String.Basic
import MultiCluster.Text.Utf8

/-! The octets of texts: what comes first as a text comes first in UTF-8, and every text is read
back from its octets. -/
namespace MultiCluster.Text

/-- The parts of a code point that its octets hold. -/
private theorem exists_parts {v : Nat} (h : v < 0x110000) : ∃ a b c d : Nat,
    a < 8 ∧ b < 64 ∧ c < 64 ∧ d < 64 ∧ v = a * 262144 + b * 4096 + c * 64 + d ∧
      v / 262144 % 8 = a ∧ v / 4096 % 64 = b ∧ v / 4096 % 16 = b % 16 ∧ v / 64 % 64 = c ∧
      v / 64 % 32 = c % 32 ∧ v % 64 = d := by
  refine ⟨v / 262144 % 8, v / 4096 % 64, v / 64 % 64, v % 64, ?_⟩
  omega

/-- The octets of two characters differ before either ends. -/
private theorem encode_append_lt {x y : Char} (h : x < y) (us vs : List UInt8) :
    String.utf8EncodeChar x ++ us < String.utf8EncodeChar y ++ vs := by
  have hlt : x.val.toNat < y.val.toNat := h
  have hy : y.val.toNat < 0x110000 := by
    have hy := y.valid
    simp only [UInt32.isValidChar, Nat.isValidChar] at hy
    omega
  unfold String.utf8EncodeChar
  generalize x.val.toNat = v at *
  generalize y.val.toNat = w at *
  obtain ⟨a, b, c, d, ha, hb, hc, hd, hv, hp⟩ := exists_parts (hlt.trans hy)
  obtain ⟨a', b', c', d', ha', hb', hc', hd', hw, hq⟩ := exists_parts hy
  simp only [hp, hq]
  clear hp hq
  split_ifs <;> simp [List.cons_lt_cons_iff, UInt8.lt_iff_toNat_lt, ← UInt8.toNat_inj]
  all_goals omega

theorem utf8Octets_lt {s t : String} (h : s < t) : utf8Octets s < utf8Octets t := by
  have flat (cs ds : List Char) (h : cs < ds) :
      cs.flatMap String.utf8EncodeChar < ds.flatMap String.utf8EncodeChar := by
    induction cs generalizing ds with
    | nil =>
      cases ds with
      | nil => exact absurd h (List.lt_irrefl _)
      | cons d ds =>
        rw [List.flatMap_nil, List.flatMap_cons]
        cases hd : String.utf8EncodeChar d with
        | nil => simp at hd
        | cons u us => exact List.nil_lt_cons u _
    | cons c cs ih =>
      cases ds with
      | nil => exact absurd h (List.not_lt_nil _)
      | cons d ds =>
        rw [List.flatMap_cons, List.flatMap_cons]
        obtain hlt | ⟨rfl, hlt⟩ := List.cons_lt_cons_iff.1 h
        · exact encode_append_lt hlt _ _
        · exact List.Lex.append_left _ (ih ds hlt) _
  exact flat _ _ (String.lt_iff_toList_lt.1 h)

theorem toNat_ofNat_of_lt {n : Nat} (h : n < 0x100) : (UInt8.ofNat n).toNat = n :=
  UInt8.toNat_ofNat_of_lt' (by simpa [UInt8.size] using h)

theorem utf8EncodeChar_of_lt {c : Char} (h : c.toNat < 0x80) :
    String.utf8EncodeChar c = [UInt8.ofNat c.toNat] := by
  have hv : c.val.toNat ≤ 127 := Nat.le_of_lt_succ h
  rw [String.utf8EncodeChar, if_pos hv]
  rfl

/-- The octet that starts a character of several octets. -/
private theorem decodeOctets_first {octet : UInt8} {b : Begun}
    (h : beginChar octet.toNat = some (.inr b)) (rest : List UInt8) :
    decodeOctets none (octet :: rest) = decodeOctets (some b) rest := by
  rw [decodeOctets, h]
  rfl

/-- An octet that goes on with a character. -/
private theorem decodeOctets_next {needed value low high n : Nat} (hl : low ≤ n + 128)
    (hh : n + 128 ≤ high) (hn : n < 64) (rest : List UInt8) :
    decodeOctets (some ⟨needed, value, low, high⟩) (UInt8.ofNat (n + 128) :: rest) =
      if needed ≤ 1 then some (Char.ofNat (value * 64 + n)) :: decodeOctets none rest
      else decodeOctets (some ⟨needed - 1, value * 64 + n, 0x80, 0xBF⟩) rest := by
  have ho : (UInt8.ofNat (n + 128)).toNat = n + 128 := toNat_ofNat_of_lt (by omega)
  have hs : n + 128 - 0x80 = n := by omega
  rw [decodeOctets, ho, if_pos ⟨hl, hh⟩, hs]

/-- Each character is read back from its octets, whatever follows them. -/
theorem decodeOctets_encode (c : Char) (rest : List UInt8) :
    decodeOctets none (String.utf8EncodeChar c ++ rest) = some c :: decodeOctets none rest := by
  have hc := c.valid
  simp only [UInt32.isValidChar, Nat.isValidChar] at hc
  have back : Char.ofNat c.val.toNat = c := Char.ofNat_toNat c
  rw [String.utf8EncodeChar]
  generalize c.val.toNat = v at *
  obtain ⟨x, y, z, w, hx, hy, hz, hw, hv, hp⟩ := exists_parts (show v < 0x110000 by omega)
  simp only [hp]
  clear hp
  split_ifs with h₁ h₂ h₃
  · have ho : (UInt8.ofNat v).toNat = v := toNat_ofNat_of_lt (by omega)
    rw [List.singleton_append, decodeOctets, ho, beginChar, if_pos (by omega), back]
    rfl
  · have ho : (UInt8.ofNat (z % 32 + 192)).toNat = z + 192 := by
      rw [toNat_ofNat_of_lt (by omega)]
      omega
    have first : beginChar (UInt8.ofNat (z % 32 + 192)).toNat = some (.inr ⟨1, z, 0x80, 0xBF⟩) := by
      simp only [ho, beginChar, show ¬ z + 192 < 0x80 by omega, show ¬ z + 192 < 0xC2 by omega,
        show z + 192 < 0xE0 by omega, show z + 192 - 0xC0 = z by omega, if_true, if_false]
    rw [List.cons_append, List.singleton_append, decodeOctets_first first,
      decodeOctets_next (by omega) (by omega) hw, if_pos (by omega), ← back, hv]
    congr 3
    omega
  · have ho : (UInt8.ofNat (y % 16 + 224)).toNat = y + 224 := by
      rw [toNat_ofNat_of_lt (by omega)]
      omega
    -- the bounds of the second octet leave out what is written in two octets, and surrogates
    obtain ⟨low, high, first, hl, hh⟩ : ∃ low high, beginChar (UInt8.ofNat (y % 16 + 224)).toNat =
        some (.inr ⟨2, y, low, high⟩) ∧ low ≤ z + 128 ∧ z + 128 ≤ high := by
      rw [ho]
      obtain rfl | rfl | ⟨h₀, h₁⟩ : y = 0 ∨ y = 13 ∨ y ≠ 0 ∧ y ≠ 13 := by omega
      · exact ⟨0xA0, 0xBF, rfl, by omega, by omega⟩
      · exact ⟨0x80, 0x9F, rfl, by omega, by omega⟩
      · refine ⟨0x80, 0xBF, ?_, by omega, by omega⟩
        simp only [beginChar, show ¬ y + 224 < 0x80 by omega, show ¬ y + 224 < 0xC2 by omega,
          show ¬ y + 224 < 0xE0 by omega, show ¬ y + 224 = 0xE0 by omega,
          show ¬ y + 224 = 0xED by omega, show y + 224 < 0xF0 by omega,
          show y + 224 - 0xE0 = y by omega, if_true, if_false]
    rw [List.cons_append, List.cons_append, List.singleton_append, decodeOctets_first first,
      decodeOctets_next hl hh hz, if_neg (by omega), decodeOctets_next (by omega) (by omega) hw,
      if_pos (by omega), ← back, hv]
    congr 3
    omega
  · have ho : (UInt8.ofNat (x + 240)).toNat = x + 240 := toNat_ofNat_of_lt (by omega)
    -- those of four octets start past the last of three and end with the last code point
    obtain ⟨low, high, first, hl, hh⟩ : ∃ low high, beginChar (UInt8.ofNat (x + 240)).toNat =
        some (.inr ⟨3, x, low, high⟩) ∧ low ≤ y + 128 ∧ y + 128 ≤ high := by
      rw [ho]
      obtain rfl | rfl | ⟨h₀, h₁⟩ : x = 0 ∨ x = 4 ∨ 0 < x ∧ x < 4 := by omega
      · exact ⟨0x90, 0xBF, rfl, by omega, by omega⟩
      · exact ⟨0x80, 0x8F, rfl, by omega, by omega⟩
      · refine ⟨0x80, 0xBF, ?_, by omega, by omega⟩
        simp only [beginChar, show ¬ x + 240 < 0x80 by omega, show ¬ x + 240 < 0xC2 by omega,
          show ¬ x + 240 < 0xE0 by omega, show ¬ x + 240 = 0xE0 by omega,
          show ¬ x + 240 = 0xED by omega, show ¬ x + 240 < 0xF0 by omega,
          show ¬ x + 240 = 0xF0 by omega, show x + 240 < 0xF4 by omega,
          show x + 240 - 0xF0 = x by omega, if_true, if_false]
    rw [List.cons_append, List.cons_append, List.cons_append, List.singleton_append,
      decodeOctets_first first, decodeOctets_next hl hh hy, if_neg (by omega),
      decodeOctets_next (by omega) (by omega) hz, if_neg (by omega),
      decodeOctets_next (by omega) (by omega) hw, if_pos (by omega), ← back, hv]
    congr 3
    omega

theorem decodeOctets_flatMap (cs : List Char) :
    decodeOctets none (cs.flatMap String.utf8EncodeChar) = cs.map some := by
  induction cs with
  | nil => rfl
  | cons c cs ih => rw [List.flatMap_cons, decodeOctets_encode, ih, List.map_cons]

/-- A text is read back from its octets. -/
theorem utf8TextLossy_flatMap (cs : List Char) :
    utf8TextLossy (cs.flatMap String.utf8EncodeChar) = String.ofList cs := by
  have same : ((·.getD '\uFFFD') ∘ some : Char → Char) = id := by
    funext c
    rfl
  rw [utf8TextLossy, decodeOctets_flatMap, List.map_map, same, List.map_id]

/-- The characters of a text, each with the offset of its octets. -/
def offsetsFrom (offset : Nat) : List Char → List (Nat × Char)
  | [] => []
  | c :: cs => (offset, c) :: offsetsFrom (offset + (String.utf8EncodeChar c).length) cs

/-- What stands in front of an offset, unless that is within a character. -/
def textBefore? (offset : Nat) (cs : List Char) : Option (List Char) :=
  (decodeOctets none ((cs.flatMap String.utf8EncodeChar).take offset)).mapM id

theorem offsetsFrom_append (offset : Nat) (cs ds : List Char) : offsetsFrom offset (cs ++ ds) =
    offsetsFrom offset cs ++ offsetsFrom (offset + (cs.flatMap String.utf8EncodeChar).length) ds := by
  induction cs generalizing offset with
  | nil => rfl
  | cons c cs ih =>
    rw [List.cons_append, offsetsFrom, ih, offsetsFrom, List.flatMap_cons, List.length_append,
      Nat.add_assoc]
    rfl

private theorem mapM_decodeOctets (cs : List Char) :
    (decodeOctets none (cs.flatMap String.utf8EncodeChar)).mapM id = some cs := by
  rw [decodeOctets_flatMap]
  induction cs with
  | nil => rfl
  | cons c cs ih => rw [List.map_cons, List.mapM_cons, ih]; rfl

theorem textBefore?_append (cs ds : List Char) :
    textBefore? (cs.flatMap String.utf8EncodeChar).length (cs ++ ds) = some cs := by
  rw [textBefore?, List.flatMap_append, List.take_left, mapM_decodeOctets]

/-- What stands behind an offset, unless that is within a character. -/
def textBehind? (offset : Nat) (cs : List Char) : Option (List Char) :=
  (decodeOctets none ((cs.flatMap String.utf8EncodeChar).drop offset)).mapM id

theorem textBehind?_append (cs ds : List Char) :
    textBehind? (cs.flatMap String.utf8EncodeChar).length (cs ++ ds) = some ds := by
  rw [textBehind?, List.flatMap_append, List.drop_left, mapM_decodeOctets]

/-- The first octet of a character tells whether it is a certain one of a single octet. -/
theorem head?_flatMap_iff {c : Char} {octet : UInt8} (hc : String.utf8EncodeChar c = [octet])
    (cs : List Char) :
    (cs.flatMap String.utf8EncodeChar).head? = some octet ↔ cs.head? = some c := by
  cases cs with
  | nil => simp
  | cons d ds =>
    rw [List.head?_cons, Option.some_inj]
    constructor
    · intro h
      -- read back from its octets, the text begins with either character
      have octets := List.eq_cons_of_mem_head? h
      have back := decodeOctets_flatMap (d :: ds)
      rw [octets, ← List.singleton_append, ← hc, decodeOctets_encode, List.map_cons] at back
      exact (Option.some.inj (List.cons.inj back).1).symm
    · rintro rfl
      rw [List.flatMap_cons, hc]
      rfl

/-- Every octet of a character of a text is one of the text. -/
theorem mem_toByteArray {s : String} {c : Char} (hc : c ∈ s.toList) {octet : UInt8}
    (ho : octet ∈ String.utf8EncodeChar c) : octet ∈ s.toByteArray.data.toList := by
  rw [← String.utf8Encode_toList, List.utf8Encode, List.data_toByteArray]
  exact List.mem_flatMap.2 ⟨c, hc, ho⟩

end MultiCluster.Text
