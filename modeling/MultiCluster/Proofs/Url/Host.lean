import Mathlib.Data.List.Induction
import MultiCluster.Proofs.Text.Normal
import MultiCluster.Proofs.Text.Percent
import MultiCluster.Url.Host

/-! White space and controls at the end of a host, which no host has. -/
namespace MultiCluster

namespace Text

theorem percentDecode_concat {octet : UInt8} (hx : hexOctet? octet = none) (front : List UInt8) :
    percentDecode (front ++ [octet]) = percentDecode front ++ [octet] := by
  induction front using percentDecode.induct with
  | case1 => rfl
  | case2 a => rfl
  | case3 a b =>
    simp only [List.cons_append, List.nil_append, percentDecode, hx]
    split
    · cases hexOctet? b <;> rfl
    · rfl
  | case4 b c rest high low hc hb ih =>
    simp only [List.cons_append, percentDecode, if_true, hb, hc, ih]
  | case5 b c rest hn ih =>
    simp only [List.cons_append] at ih
    have kept (tail : List UInt8) : percentDecode (percentSign :: b :: c :: tail) =
        percentSign :: percentDecode (b :: c :: tail) := by
      rw [percentDecode, if_pos rfl]
      split
      · next high low hb hc => exact (hn high low hb hc).elim
      · rfl
    simp only [List.cons_append, kept, ih]
  | case6 a b c rest ha ih =>
    simp only [List.cons_append] at ih
    simp only [List.cons_append, percentDecode, if_neg ha, ih]

theorem beginChar_low {octet : Nat} {b : Begun} (h : beginChar octet = some (.inr b)) :
    0x80 ≤ b.low := by
  unfold beginChar at h
  split_ifs at h <;> cases h <;> exact Nat.le_of_ble_eq_true rfl

/-- An octet that does not go on with what was begun is read anew. -/
theorem decodeOctets_fault {b : Begun} {octet : UInt8}
    (h : ¬ (b.low ≤ octet.toNat ∧ octet.toNat ≤ b.high)) (rest : List UInt8) :
    decodeOctets (some b) (octet :: rest) = none :: decodeOctets none (octet :: rest) := by
  rw [decodeOctets, decodeOctets, if_neg h]
  rcases beginChar octet.toNat with _ | c | b' <;> rfl

theorem mem_decodeOctets_concat {octet : UInt8} (ho : octet.toNat < 0x80) {begun : Option Begun}
    (hb : ∀ b ∈ begun, 0x80 ≤ b.low) (front : List UInt8) :
    some (Char.ofNat octet.toNat) ∈ decodeOctets begun (front ++ [octet]) := by
  have fresh : beginChar octet.toNat = some (.inl (Char.ofNat octet.toNat)) := by
    rw [beginChar, if_pos ho]
  induction front generalizing begun with
  | nil =>
    cases begun with
    | none => simp [decodeOctets, fresh]
    | some b =>
      have outside : ¬ (b.low ≤ octet.toNat ∧ octet.toNat ≤ b.high) := by
        have := hb b rfl
        omega
      rw [List.nil_append, decodeOctets_fault outside]
      exact List.mem_cons_of_mem _ (by simp [decodeOctets, fresh])
  | cons first rest ih =>
    have alone : some (Char.ofNat octet.toNat) ∈ decodeOctets none (rest ++ [octet]) :=
      ih (by simp)
    have anew : some (Char.ofNat octet.toNat) ∈ decodeOctets none (first :: (rest ++ [octet])) := by
      rw [decodeOctets]
      simp only [List.nil_append]
      split
      · exact List.mem_cons_of_mem _ alone
      · exact List.mem_cons_of_mem _ alone
      · next b hf =>
        refine ih ?_
        rintro _ ⟨⟩
        exact beginChar_low hf
    rw [List.cons_append]
    cases begun with
    | none => exact anew
    | some b =>
      by_cases inside : b.low ≤ first.toNat ∧ first.toNat ≤ b.high
      · rw [decodeOctets, if_pos inside]
        simp only
        split
        · exact List.mem_cons_of_mem _ alone
        · exact ih (by rintro _ ⟨⟩; exact Nat.le_refl _)
      · rw [decodeOctets_fault inside]
        exact List.mem_cons_of_mem _ anew

end Text

namespace Url

open Text

/-- What white space and controls are in a host. -/
private theorem host_facts : ∀ n < 0x21, Domain.meaning? (Char.ofNat n) = some [Char.ofNat n] ∧
    Domain.isForbidden (Char.ofNat n) = true ∧ hexOctet? (UInt8.ofNat n) = none ∧
      Char.ofNat n ≠ ']' := by
  decide

theorem Domain.mem_meaningOf? {cs text : List Char} {c : Char} (hl : c.toNat ≤ 0x20) (hc : c ∈ cs)
    (h : meaningOf? cs = some text) : c ∈ text := by
  have alone : meaning? c = some [c] := by
    have := (host_facts c.toNat (by omega)).1
    rwa [Char.ofNat_toNat] at this
  have inAll {cs : List Char} (hc : c ∈ cs) {all : List (List Char)}
      (h : cs.mapM meaning? = some all) : c ∈ all.flatten := by
    induction cs generalizing all with
    | nil => cases hc
    | cons d cs ih =>
      rw [List.mapM_cons] at h
      obtain ⟨first, hf, h⟩ := Option.bind_eq_some_iff.1 h
      obtain ⟨rest, hr, h⟩ := Option.bind_eq_some_iff.1 h
      cases h
      rw [List.flatten_cons, List.mem_append]
      rcases List.mem_cons.1 hc with rfl | hc
      · obtain rfl := Option.some.inj (alone.symm.trans hf)
        exact .inl (List.mem_singleton_self c)
      · exact .inr (ih hc hr)
  rw [meaningOf?] at h
  cases hm : cs.mapM meaning? with
  | none =>
    rw [hm] at h
    cases h
  | some all =>
    have inText := inAll hc hm
    rw [hm] at h
    cases h
    split
    · exact inText
    · exact mem_composed hl inText

theorem Domain.ascii?_of_low {cs : List Char} {c : Char} (hl : c.toNat ≤ 0x20) (hc : c ∈ cs) :
    ascii? cs = none := by
  have forbidden : isForbidden c = true := by
    have := (host_facts c.toNat (by omega)).2.1
    rwa [Char.ofNat_toNat] at this
  rw [ascii?]
  cases hm : meaningOf? cs with
  | none => rfl
  | some text =>
    have hf : text.any isForbidden = true :=
      List.any_eq_true.2 ⟨c, mem_meaningOf? hl hc hm, forbidden⟩
    change (if text.any isForbidden = true then none >>= _ else _) = none
    rw [if_pos hf]
    rfl

theorem Host.parse_of_low (cs : List Char) {c : Char} (hl : c.toNat ≤ 0x20) :
    ∃ fault, Host.parse (cs ++ [c]) = .error fault := by
  have facts := host_facts c.toNat (by omega)
  rw [Char.ofNat_toNat] at facts
  have octets : String.utf8EncodeChar c = [UInt8.ofNat c.toNat] := utf8EncodeChar_of_lt (by omega)
  have value : (UInt8.ofNat c.toNat).toNat = c.toNat := toNat_ofNat_of_lt (by omega)
  have inText : c ∈ (utf8TextLossy (percentDecode
      ((cs ++ [c]).flatMap String.utf8EncodeChar))).toList := by
    rw [List.flatMap_append, List.flatMap_singleton, octets, percentDecode_concat facts.2.2.1,
      utf8TextLossy, String.toList_ofList]
    have hm : some (Char.ofNat (UInt8.ofNat c.toNat).toNat) ∈ decodeOctets none
        (percentDecode (cs.flatMap String.utf8EncodeChar) ++ [UInt8.ofNat c.toNat]) :=
      mem_decodeOctets_concat (by omega) (by simp) _
    rw [value, Char.ofNat_toNat] at hm
    exact List.mem_map.2 ⟨_, hm, rfl⟩
  have last : (cs ++ [c]).getLast? = some c := List.getLast?_concat
  unfold Host.parse
  split
  · next he => exact absurd he (by simp)
  · next inner he =>
    have closed : inner.getLast? ≠ some ']' := by
      intro hi
      have hn : inner ≠ [] := by
        rintro rfl
        cases hi
      rw [he, ← List.singleton_append, List.getLast?_append_of_ne_nil _ hn, hi] at last
      exact facts.2.2.2 (Option.some.inj last).symm
    exact ⟨.ipv6, if_neg closed⟩
  · refine ⟨.domain, ?_⟩
    simp only [Domain.ascii?_of_low hl inText]
    rfl

end Url
end MultiCluster
