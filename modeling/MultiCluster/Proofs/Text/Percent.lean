import MultiCluster.Proofs.Text.Octets
import MultiCluster.Proofs.Text.Split
import MultiCluster.Text.Percent

/-! Texts that are percent-encoded, and the queries that are made of them, read back. -/
namespace MultiCluster.Text

/-- What a digit of an encoded octet is in a query. -/
private theorem hexDigit_facts : ∀ n < 16, let c := (hexChar n).toUpper
    c ≠ '+' ∧ isUnreserved c = true ∧ String.utf8EncodeChar c = [UInt8.ofNat c.toNat] ∧
      hexOctet? (UInt8.ofNat c.toNat) = some n := by
  decide

theorem percentDecode_cons {octet : UInt8} (h : octet ≠ percentSign) (rest : List UInt8) :
    percentDecode (octet :: rest) = octet :: percentDecode rest := by
  match rest with
  | [] => rfl
  | [_] => rfl
  | _ :: _ :: _ => rw [percentDecode, if_neg h]

/-- A plus sign in a query stands for a space. -/
private def spaced (cs : List Char) : List Char := cs.map fun c => if c = '+' then ' ' else c

private theorem spaced_append (cs ds : List Char) : spaced (cs ++ ds) = spaced cs ++ spaced ds :=
  List.map_append

private theorem percentDecode_octet (octet : UInt8) (cs : List Char) :
    percentDecode ((spaced (percentOctet octet ++ cs)).flatMap String.utf8EncodeChar) =
      octet :: percentDecode ((spaced cs).flatMap String.utf8EncodeChar) := by
  have ho : octet.toNat < 256 := octet.toNat_lt_size
  obtain ⟨hp, -, he, hd⟩ := hexDigit_facts (octet.toNat / 16) (by omega)
  obtain ⟨lp, -, le, ld⟩ := hexDigit_facts (octet.toNat % 16) (by omega)
  have hv : UInt8.ofNat (octet.toNat / 16 * 16 + octet.toNat % 16) = octet := by
    rw [Nat.div_add_mod']
    exact UInt8.ofNat_toNat
  have shown : (spaced (percentOctet octet)).flatMap String.utf8EncodeChar = [percentSign,
      UInt8.ofNat (hexChar (octet.toNat / 16)).toUpper.toNat,
      UInt8.ofNat (hexChar (octet.toNat % 16)).toUpper.toNat] := by
    simp only [percentOctet, spaced, List.map_cons, List.map_nil, if_neg hp, if_neg lp,
      List.flatMap_cons, List.flatMap_nil, he, le]
    rfl
  rw [spaced_append, List.flatMap_append, shown]
  simp only [List.cons_append, List.nil_append, percentDecode, if_true, hd, ld, hv]

theorem bounds_of_isUnreserved {c : Char} (h : isUnreserved c = true) :
    0x2D ≤ c.toNat ∧ c.toNat ≤ 0x7E := by
  have within {low high : UInt32} (h : low ≤ c.val ∧ c.val ≤ high) (hl : 0x2D ≤ low.toNat)
      (hh : high.toNat ≤ 0x7E) : 0x2D ≤ c.toNat ∧ c.toNat ≤ 0x7E :=
    ⟨Nat.le_trans hl (UInt32.le_iff_toNat_le.1 h.1),
      Nat.le_trans (UInt32.le_iff_toNat_le.1 h.2) hh⟩
  have both {low high : UInt32} (h : (decide (low ≤ c.val) && decide (c.val ≤ high)) = true) :
      low ≤ c.val ∧ c.val ≤ high := by simpa using h
  have letter (h : (c.isUpper || c.isLower) = true) : 0x2D ≤ c.toNat ∧ c.toNat ≤ 0x7E := by
    rcases Bool.or_eq_true_iff.1 h with h | h
    · exact within (of_decide_eq_true h) (by decide) (by decide)
    · exact within (both h) (by decide) (by decide)
  simp only [isUnreserved, Char.isAlphanum, Bool.or_eq_true, beq_iff_eq] at h
  rcases h with ((((h | h) | rfl) | rfl) | rfl) | rfl
  · exact letter h
  · exact within (both h) (by decide) (by decide)
  all_goals decide

/-- A character as it is encoded. -/
private def encoded (c : Char) : List Char :=
  if isUnreserved c then [c] else (String.utf8EncodeChar c).flatMap percentOctet

private theorem percentDecode_encoded (c : Char) (cs : List Char) :
    percentDecode ((spaced (encoded c ++ cs)).flatMap String.utf8EncodeChar) =
      String.utf8EncodeChar c ++ percentDecode ((spaced cs).flatMap String.utf8EncodeChar) := by
  unfold encoded
  split
  · next h =>
    have hlt : c.toNat < 0x80 := Nat.lt_of_le_of_lt (bounds_of_isUnreserved h).2 (by decide)
    have plain : c ≠ '+' := by
      rintro rfl
      exact absurd h (by decide)
    have notSign : UInt8.ofNat c.toNat ≠ percentSign := by
      intro hs
      have hn := congrArg UInt8.toNat hs
      rw [toNat_ofNat_of_lt (by omega)] at hn
      obtain rfl : c = '%' := Char.toNat_inj.1 hn
      exact absurd h (by decide)
    have kept : spaced [c] = [c] := by
      rw [spaced, List.map_singleton, if_neg plain]
    rw [spaced_append, kept, List.flatMap_append, List.flatMap_singleton,
      utf8EncodeChar_of_lt hlt]
    exact percentDecode_cons notSign _
  · induction String.utf8EncodeChar c with
    | nil => rfl
    | cons octet octets ih =>
      rw [List.flatMap_cons, List.append_assoc, percentDecode_octet, ih]
      rfl

/-- What is encoded is read back as a name or a value of a query. -/
theorem queryText_percentEncode (s : String) : queryText (percentEncode s).toList = s := by
  have read (cs : List Char) : percentDecode ((spaced (cs.flatMap encoded)).flatMap
      String.utf8EncodeChar) = cs.flatMap String.utf8EncodeChar := by
    induction cs with
    | nil => rfl
    | cons c cs ih => rw [List.flatMap_cons, percentDecode_encoded, ih, List.flatMap_cons]
  change utf8TextLossy (percentDecode ((spaced (percentEncode s).toList).flatMap _)) = s
  rw [percentEncode, String.toList_ofList]
  exact (congrArg utf8TextLossy (read s.toList)).trans
    ((utf8TextLossy_flatMap s.toList).trans String.ofList_toList)

theorem mem_percentOctet {octet : UInt8} {c : Char} (h : c ∈ percentOctet octet) :
    isUnreserved c = true ∨ c = '%' := by
  have ho : octet.toNat < 256 := octet.toNat_lt_size
  simp only [percentOctet, List.mem_cons, List.not_mem_nil, or_false] at h
  rcases h with rfl | rfl | rfl
  · exact .inr rfl
  · exact .inl (hexDigit_facts _ (by omega)).2.1
  · exact .inl (hexDigit_facts _ (by omega)).2.1

theorem mem_percentEncode {s : String} {c : Char} (h : c ∈ (percentEncode s).toList) :
    isUnreserved c = true ∨ c = '%' := by
  rw [percentEncode, String.toList_ofList] at h
  obtain ⟨d, -, hc⟩ := List.mem_flatMap.1 h
  split at hc
  · next hd =>
    rw [List.mem_singleton.1 hc]
    exact .inl hd
  · obtain ⟨octet, -, hc⟩ := List.mem_flatMap.1 hc
    exact mem_percentOctet hc

theorem percentEncode_eq_self {s : String} (h : ∀ c ∈ s.toList, isUnreserved c = true) :
    percentEncode s = s := by
  have kept (cs : List Char) (h : ∀ c ∈ cs, isUnreserved c = true) : cs.flatMap encoded = cs := by
    induction cs with
    | nil => rfl
    | cons c cs ih =>
      rw [List.flatMap_cons, ih fun d hd => h d (List.mem_cons_of_mem c hd), encoded,
        if_pos (h c List.mem_cons_self), List.singleton_append]
  exact (congrArg String.ofList (kept s.toList h)).trans String.ofList_toList

/-- The query that gives names values. -/
def queryOf (pairs : List (String × String)) : String :=
  "&".intercalate (pairs.map fun p => percentEncode p.1 ++ "=" ++ percentEncode p.2)

theorem queryPairs_queryOf (pairs : List (String × String)) :
    queryPairs (queryOf pairs) = pairs := by
  let part (p : String × String) : List Char :=
    (percentEncode p.1).toList ++ '=' :: (percentEncode p.2).toList
  have shown : (queryOf pairs).toList = ['&'].intercalate (pairs.map part) := by
    have parts (p : String × String) :
        (percentEncode p.1 ++ "=" ++ percentEncode p.2).toList = part p := by
      simp [part]
    rw [queryOf, String.toList_intercalate, List.map_map]
    exact congrArg ['&'].intercalate (List.map_congr_left fun p _ => parts p)
  have absent (mark : Char) (hu : isUnreserved mark = false) (hp : mark ≠ '%') (s : String) :
      mark ∉ (percentEncode s).toList := by
    intro h
    rcases mem_percentEncode h with h | h
    · rw [hu] at h
      cases h
    · exact hp h
  have notAnd : ∀ cs ∈ pairs.map part, '&' ∉ cs := by
    intro cs hc h
    obtain ⟨p, -, rfl⟩ := List.mem_map.1 hc
    rcases List.mem_append.1 h with h | h
    · exact absent '&' rfl (by decide) _ h
    · rcases List.mem_cons.1 h with h | h
      · exact absurd h (by decide)
      · exact absent '&' rfl (by decide) _ h
  have filled : ∀ cs ∈ pairs.map part, (!cs.isEmpty) = true := by
    intro cs hc
    obtain ⟨p, -, rfl⟩ := List.mem_map.1 hc
    simp [part]
  by_cases hp : pairs = []
  · subst hp
    rfl
  have hne : pairs.map part ≠ [] := fun h => hp (List.map_eq_nil_iff.1 h)
  have hs : splitAll '&' (queryOf pairs).toList = pairs.map part := by
    rw [shown, splitAll_eq_splitOn, List.splitOn_intercalate '&' notAnd hne]
  rw [queryPairs, hs, List.filter_eq_self.2 filled, List.map_map]
  refine (List.map_congr_left fun p _ => ?_).trans (List.map_id pairs)
  rw [Function.comp_apply, splitFirst_append (absent '=' rfl (by decide) p.1)]
  exact Prod.ext (queryText_percentEncode p.1) (queryText_percentEncode p.2)

end MultiCluster.Text
