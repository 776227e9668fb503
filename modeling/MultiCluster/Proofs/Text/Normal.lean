import MultiCluster.Proofs.Text.Octets
import MultiCluster.Text.Normal

/-! Blanks and controls of ASCII stay in the composed form of a text. -/
namespace MultiCluster.Text

/-- Told of octets, which are read off a text with far less work than its characters. -/
private theorem compositions_octets : compositions.all fun r =>
    decide (0x20 < r.1) && r.2.toByteArray.data.toList.all fun octet => decide (0x20 < octet) := by
  decide +kernel

private theorem compositions_high {r : Nat × String} (hr : r ∈ compositions) :
    0x20 < r.1 ∧ ∀ c ∈ r.2.toList, 0x20 < c.toNat := by
  obtain ⟨hn, ho⟩ := Bool.and_eq_true_iff.1 (List.all_eq_true.1 compositions_octets r hr)
  refine ⟨of_decide_eq_true hn, fun c hc => Nat.lt_of_not_le fun hl => ?_⟩
  have hs : UInt8.ofNat c.toNat ∈ String.utf8EncodeChar c := by
    rw [utf8EncodeChar_of_lt (by omega)]
    exact List.mem_singleton_self _
  have hlt := UInt8.lt_iff_toNat_lt.1
    (of_decide_eq_true (List.all_eq_true.1 ho _ (mem_toByteArray hc hs)))
  rw [toNat_ofNat_of_lt (by omega)] at hlt
  exact absurd hlt (Nat.not_lt.2 hl)

private theorem mem_of_wholeIn {first whole : Char} {cs : List Char}
    (h : wholeIn first cs = some whole) : first ∈ cs := by
  induction cs using wholeIn.induct first with
  | case1 other rest => exact List.mem_cons_self
  | case2 part other rest hp ih =>
    rw [wholeIn, if_neg hp] at h
    exact List.mem_cons_of_mem _ (List.mem_cons_of_mem _ (ih h))
  | case3 => simp [wholeIn] at h

private theorem mem_of_firstIn {whole first : Char} {cs : List Char}
    (h : firstIn whole cs = some first) : whole ∈ cs := by
  induction cs using firstIn.induct whole with
  | case1 part rest => exact List.mem_cons_of_mem _ List.mem_cons_self
  | case2 part other rest hp ih =>
    rw [firstIn, if_neg hp] at h
    exact List.mem_cons_of_mem _ (List.mem_cons_of_mem _ (ih h))
  | case3 => simp [firstIn] at h

theorem compose?_of_low {a b : Char} (h : a.toNat ≤ 0x20 ∨ b.toNat ≤ 0x20) :
    compose? a b = none := by
  have row : (compositions.filterMap fun r =>
      if r.1 = b.toNat then wholeIn a r.2.toList else none) = [] := by
    refine List.filterMap_eq_nil_iff.2 fun r hr => ?_
    obtain ⟨hb, ha⟩ := compositions_high hr
    split
    · next he =>
      refine Option.eq_none_iff_forall_ne_some.2 fun whole hw => ?_
      have hm := ha a (mem_of_wholeIn hw)
      omega
    · rfl
  have syllable : syllable? a b = none := by
    unfold syllable?
    simp only [Bool.and_eq_true, decide_eq_true_eq]
    rw [if_neg (by omega), if_neg (by omega)]
  rw [compose?, row, syllable]
  rfl

theorem parts?_of_low {c : Char} (h : c.toNat ≤ 0x20) : parts? c = none := by
  have row : (compositions.filterMap fun r =>
      (firstIn c r.2.toList).map (·, Char.ofNat r.1)) = [] := by
    refine List.filterMap_eq_nil_iff.2 fun r hr => Option.map_eq_none_iff.2 ?_
    refine Option.eq_none_iff_forall_ne_some.2 fun first hf => ?_
    have hm := (compositions_high hr).2 c (mem_of_firstIn hf)
    omega
  have syllable : syllableParts? c = none := by
    have hl : c.toNat < 0xAC00 := by omega
    simp [syllableParts?, hl]
  rw [parts?, row, syllable]
  rfl

theorem mem_placeMark {c d : Char} {cs : List Char} : d ∈ placeMark c cs ↔ d = c ∨ d ∈ cs := by
  induction cs with
  | nil => simp [placeMark]
  | cons last front ih =>
    unfold placeMark
    split
    · rw [List.mem_cons, ih, List.mem_cons]
      exact or_left_comm
    · exact List.mem_cons

theorem mem_composeFrom {c : Char} (h : c.toNat ≤ 0x20) {start : Char} {kept rest : List Char}
    (hc : c = start ∨ c ∈ kept ∨ c ∈ rest) : c ∈ composeFrom start kept rest := by
  induction rest generalizing start kept with
  | nil =>
    rw [composeFrom, List.mem_cons, List.mem_reverse]
    simpa using hc
  | cons x rest ih =>
    unfold composeFrom
    simp only
    split
    · next whole hw =>
      -- a character that is low is no part of another
      have hcomp : compose? start x = some whole := by
        split at hw
        · cases hw
        · exact hw
      refine ih ?_
      rcases hc with rfl | hc | hc
      · rw [compose?_of_low (.inl h)] at hcomp
        cases hcomp
      · exact .inr (.inl hc)
      · rcases List.mem_cons.1 hc with rfl | hc
        · rw [compose?_of_low (.inr h)] at hcomp
          cases hcomp
        · exact .inr (.inr hc)
    · split
      · rw [List.mem_append, List.mem_cons, List.mem_reverse]
        rcases hc with hc | hc | hc
        · exact .inl (.inl hc)
        · exact .inl (.inr hc)
        · exact .inr (ih ((List.mem_cons.1 hc).imp id .inr))
      · refine ih ?_
        rcases hc with hc | hc | hc
        · exact .inl hc
        · exact .inr (.inl (List.mem_cons_of_mem x hc))
        · rcases List.mem_cons.1 hc with rfl | hc
          · exact .inr (.inl List.mem_cons_self)
          · exact .inr (.inr hc)

/-- What is low stays in the composed form. -/
theorem mem_composed {c : Char} (h : c.toNat ≤ 0x20) {cs : List Char} (hc : c ∈ cs) :
    c ∈ composed cs := by
  have alone (depth : Nat) : decomposed depth c = [c] := by
    cases depth with
    | zero => rw [decomposed]
    | succ depth => simp only [decomposed, parts?_of_low h]
  have placed (parts front : List Char) :
      c ∈ parts.foldl (fun front c => placeMark c front) front ↔ c ∈ parts ∨ c ∈ front := by
    induction parts generalizing front with
    | nil => simp
    | cons part parts ih =>
      rw [List.foldl_cons, ih, mem_placeMark, List.mem_cons]
      exact or_left_comm.trans or_assoc.symm
  have part : c ∈ cs.flatMap (decomposed maxDepth) := by
    refine List.mem_flatMap.2 ⟨c, hc, ?_⟩
    rw [alone]
    exact List.mem_singleton_self c
  have hm : c ∈ ((cs.flatMap (decomposed maxDepth)).foldl
      (fun front c => placeMark c front) []).reverse :=
    List.mem_reverse.2 ((placed _ []).2 (.inl part))
  unfold composed
  simp only
  split
  · next he =>
    rw [he] at hm
    cases hm
  · next first rest he =>
    rw [he] at hm
    exact mem_composeFrom h ((List.mem_cons.1 hm).imp id .inr)

end MultiCluster.Text
