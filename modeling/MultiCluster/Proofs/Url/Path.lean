import MultiCluster.Proofs.Text.Blank
import MultiCluster.Proofs.Text.Percent
import MultiCluster.Url

/-! Paths of addresses that go on: which segments stay in front of those that are appended. -/
namespace MultiCluster

namespace Url

open Text

/-- The segments that are kept after one more of them, the last one first. -/
def settle (kept : List String) (segment : String) : List String :=
  if isDoubleDot segment then kept.tail
  else if isSingleDot segment then kept
  else segment :: kept

/-- The segments that are kept, the last one first, when others follow them. -/
def settled (kept segments : List String) : List String := segments.foldl settle kept

theorem settled_append (kept front back : List String) :
    settled kept (front ++ back) = settled (settled kept front) back :=
  List.foldl_append

theorem mem_settle {kept : List String} {segment s : String} (h : s ∈ settle kept segment) :
    s ∈ kept ∨ s = segment := by
  unfold settle at h
  split_ifs at h
  · exact .inl (List.mem_of_mem_tail h)
  · exact .inl h
  · exact (List.mem_cons.1 h).symm

theorem mem_settled {kept segments : List String} {s : String} (h : s ∈ settled kept segments) :
    s ∈ kept ∨ s ∈ segments := by
  induction segments generalizing kept with
  | nil => exact .inl h
  | cons first rest ih =>
    rcases ih h with h | h
    · rcases mem_settle h with h | rfl
      · exact .inl h
      · exact .inr List.mem_cons_self
    · exact .inr (List.mem_cons_of_mem first h)

/-- Whether a segment stands for others. -/
def isDots (segment : String) : Bool := isDoubleDot segment || isSingleDot segment

theorem settle_of_plain {segment : String} (h : isDots segment = false) (kept : List String) :
    settle kept segment = segment :: kept := by
  obtain ⟨hd, hs⟩ := Bool.or_eq_false_iff.1 h
  simp [settle, hd, hs]

theorem settled_of_plain {segments : List String} (h : ∀ s ∈ segments, isDots s = false)
    (kept : List String) : settled kept segments = segments.reverse ++ kept := by
  induction segments generalizing kept with
  | nil => rfl
  | cons first rest ih =>
    have step : settled kept (first :: rest) = settled (first :: kept) rest := by
      rw [settled, List.foldl_cons, settle_of_plain (h first List.mem_cons_self), settled]
    rw [step, ih fun s hs => h s (List.mem_cons_of_mem first hs)]
    simp

/-- At the end of a path a segment that stands for others leaves an empty one. -/
theorem resolveDots_eq (kept segments : List String) : resolveDots kept segments =
    (settled kept segments).reverse ++ if segments.getLast?.any isDots then [""] else [] := by
  induction segments generalizing kept with
  | nil => simp [resolveDots, settled]
  | cons first rest ih =>
    cases rest with
    | nil =>
      by_cases hd : isDoubleDot first = true <;> by_cases hs : isSingleDot first = true <;>
        simp [resolveDots, settled, settle, isDots, hd, hs]
    | cons second rest =>
      have step : resolveDots kept (first :: second :: rest) =
          resolveDots (settle kept first) (second :: rest) := by
        rw [resolveDots, settle]
        simp only [List.isEmpty_cons, Bool.false_eq_true, if_false]
        split_ifs <;> rfl
      rw [step, ih, List.getLast?_cons_cons]
      rfl

/-- A path of segments, with a slash in front of each. -/
def pathOf (segments : List String) : String := String.join (segments.map ("/" ++ ·))

theorem toList_pathOf_cons (segment : String) (segments : List String) :
    (pathOf (segment :: segments)).toList =
      '/' :: (segment.toList ++ (pathOf segments).toList) := by
  simp [pathOf, String.join_cons]

theorem pathOf_append (front back : List String) :
    pathOf (front ++ back) = pathOf front ++ pathOf back := by
  rw [pathOf, List.map_append, String.join_append, pathOf, pathOf]

theorem slash_intercalate {segments : List String} (h : segments ≠ []) :
    "/" ++ "/".intercalate segments = pathOf segments := by
  induction segments with
  | nil => exact absurd rfl h
  | cons first rest ih =>
    cases rest with
    | nil => simp [pathOf, String.join_cons]
    | cons second rest =>
      rw [String.intercalate_cons_cons, pathOf, List.map_cons, String.join_cons, ← pathOf,
        ← ih (List.cons_ne_nil second rest)]
      simp only [String.append_assoc]

theorem withoutSlashes_slash_intercalate (segments : List String) :
    withoutSlashes ("/" ++ "/".intercalate segments) = withoutSlashes (pathOf segments) := by
  by_cases h : segments = []
  · subst h
    decide
  · rw [slash_intercalate h]

theorem withoutSlashes_pathOf_replicate (segments : List String) (n : Nat) :
    withoutSlashes (pathOf (segments ++ List.replicate n "")) =
      withoutSlashes (pathOf segments) := by
  have slashes : ∀ c ∈ (pathOf (List.replicate n "")).toList, c = '/' := by
    induction n with
    | zero => simp [pathOf]
    | succ n ih =>
      intro c hc
      rw [List.replicate_succ, ← List.singleton_append, pathOf_append, String.toList_append] at hc
      rcases List.mem_append.1 hc with hc | hc
      · simpa [pathOf] using hc
      · exact ih c hc
  rw [pathOf_append, withoutSlashes_append slashes]

theorem withoutSlashes_pathOf_iff {segments : List String}
    (h : ∀ s ∈ segments, '/' ∉ s.toList) :
    withoutSlashes (pathOf segments) = pathOf segments ↔ segments.getLast? ≠ some "" := by
  rw [withoutSlashes_eq_self_iff]
  cases segments using List.reverseRecOn with
  | nil => simp [pathOf]
  | append_singleton front s =>
    have shown : (pathOf (front ++ [s])).toList = (pathOf front).toList ++ '/' :: s.toList := by
      rw [pathOf_append, String.toList_append, toList_pathOf_cons]
      simp [pathOf]
    have last : (front ++ [s]).getLast? = some s := by simp
    rw [shown, last]
    cases hs : s.toList using List.reverseRecOn with
    | nil =>
      obtain rfl : s = "" := String.toList_inj.1 hs
      simp
    | append_singleton cs c =>
      have hc : c ≠ '/' := by
        rintro rfl
        exact h s (by simp) (by simp [hs])
      have hne : s ≠ "" := by
        rintro rfl
        simp at hs
      have ends : ((pathOf front).toList ++ '/' :: (cs ++ [c])).getLast? = some c := by
        rw [← List.cons_append, ← List.append_assoc, List.getLast?_concat]
      rw [ends]
      simp [hc, hne]

/-- A segment that is written as it is and stands for itself. -/
structure IsName (segment : String) : Prop where
  filled : segment ≠ ""
  unreserved : ∀ c ∈ segment.toList, isUnreserved c = true
  plain : isDots segment = false

instance (segment : String) : Decidable (IsName segment) :=
  decidable_of_iff
    (segment ≠ "" ∧ segment.toList.all isUnreserved = true ∧ isDots segment = false)
    ⟨fun ⟨hf, hu, hp⟩ => ⟨hf, List.all_eq_true.1 hu, hp⟩,
      fun ⟨hf, hu, hp⟩ => ⟨hf, List.all_eq_true.2 hu, hp⟩⟩

theorem encodeWhere_eq_self {special cs : List Char}
    (h : ∀ c ∈ cs, 0x20 ≤ c.toNat ∧ c.toNat ≤ 0x7E ∧ c ∉ special) :
    encodeWhere special cs = String.ofList cs := by
  rw [encodeWhere]
  congr 1
  induction cs with
  | nil => rfl
  | cons c cs ih =>
    obtain ⟨hl, hh, hs⟩ := h c List.mem_cons_self
    have kept : (decide (c.toNat < 0x20) || decide (0x7E < c.toNat) || special.contains c) =
        false := by
      simp [hl, hh, hs]
    rw [List.flatMap_cons, ih fun d hd => h d (List.mem_cons_of_mem c hd), kept]
    rfl

theorem encodeWhere_of_isUnreserved {special cs : List Char}
    (hs : special.any isUnreserved = false) (h : ∀ c ∈ cs, isUnreserved c = true) :
    encodeWhere special cs = String.ofList cs := by
  refine encodeWhere_eq_self fun c hc => ?_
  have hb := bounds_of_isUnreserved (h c hc)
  refine ⟨by omega, hb.2, fun hm => ?_⟩
  exact List.any_eq_false.1 hs c hm (h c hc)

theorem slash_notMem_encodeWhere {special cs : List Char} (h : '/' ∉ cs) :
    '/' ∉ (encodeWhere special cs).toList := by
  rw [encodeWhere, String.toList_ofList]
  intro hc
  obtain ⟨d, hd, hc⟩ := List.mem_flatMap.1 hc
  split at hc
  · obtain ⟨octet, -, hc⟩ := List.mem_flatMap.1 hc
    rcases mem_percentOctet hc with hc | hc
    · exact absurd hc (by decide)
    · exact absurd hc (by decide)
  · exact h (List.mem_singleton.1 hc ▸ hd)

theorem splitSlashes_append (special : Bool) (xs ys : List Char) :
    splitSlashes special (xs ++ '/' :: ys) =
      splitSlashes special xs ++ splitSlashes special ys := by
  rw [splitSlashes, List.map_append, List.map_cons, ite_self, splitAll_append]
  rfl

theorem splitSlashes_of_none {special : Bool} {cs : List Char}
    (h : ∀ c ∈ cs, isSlash special c = false) : splitSlashes special cs = [cs] := by
  have same : (cs.map fun c => if isSlash special c = true then '/' else c) = cs := by
    refine (List.map_congr_left fun c hc => ?_).trans (List.map_id cs)
    rw [h c hc]
    rfl
  have none : '/' ∉ cs := fun hc => absurd (h '/' hc) (by simp [isSlash])
  rw [splitSlashes, same, splitAll_eq_splitOn, List.splitOn_eq_singleton none]

theorem splitSlashes_names {name : String} {names : List String}
    (h : ∀ n ∈ name :: names, IsName n) :
    (splitSlashes true (name.toList ++ (pathOf names).toList)).map (encodeWhere pathEncoded) =
      name :: names := by
  have alone {name : String} (h : IsName name) :
      (splitSlashes true name.toList).map (encodeWhere pathEncoded) = [name] := by
    have noSlash : ∀ c ∈ name.toList, isSlash true c = false := by
      intro c hc
      refine Bool.eq_false_iff.2 fun hs => ?_
      simp only [isSlash, Bool.or_eq_true, Bool.and_eq_true, beq_iff_eq, true_and] at hs
      rcases hs with rfl | rfl <;> exact absurd (h.unreserved _ hc) (by decide)
    rw [splitSlashes_of_none noSlash, List.map_singleton,
      encodeWhere_of_isUnreserved (by decide) h.unreserved, String.ofList_toList]
  induction names generalizing name with
  | nil =>
    have ends : (pathOf []).toList = [] := rfl
    rw [ends, List.append_nil, alone (h name List.mem_cons_self)]
  | cons next names ih =>
    rw [toList_pathOf_cons, splitSlashes_append, List.map_append,
      alone (h name List.mem_cons_self), ih fun n hn => h n (List.mem_cons_of_mem name hn)]
    rfl

/-- The segments in a text that starts with a slash, as they are encoded. -/
def segmentsOf (cs : List Char) : List String :=
  match cs with
  | [] => []
  | _ :: rest => (splitSlashes true rest).map (encodeWhere pathEncoded)

theorem slash_notMem_segmentsOf {cs : List Char} {segment : String} (h : segment ∈ segmentsOf cs) :
    '/' ∉ segment.toList := by
  cases cs with
  | nil => cases h
  | cons c rest =>
    obtain ⟨part, hp, rfl⟩ := List.mem_map.1 h
    exact slash_notMem_encodeWhere fun hc => (mem_of_mem_splitAll hp hc).2 rfl

section

variable {cs : List Char} (hcs : ∀ c ∈ cs.head?, isSlash true c = true)
include hcs

theorem segmentedPath_append (t : List Char) : segmentedPath true (cs ++ '/' :: t) =
    "/" ++ "/".intercalate (resolveDots [] (segmentsOf cs ++
      (splitSlashes true t).map (encodeWhere pathEncoded))) := by
  cases cs with
  | nil => rfl
  | cons c rest =>
    have hc : isSlash true c = true := hcs c rfl
    rw [List.cons_append, segmentedPath]
    simp only [hc, if_true]
    rw [splitSlashes_append, List.map_append, segmentsOf]

/-- Slashes at the end of a path make no difference when they are cut off again. -/
theorem withoutSlashes_segmentedPath (k : Nat) :
    withoutSlashes (segmentedPath true (cs ++ List.replicate k '/')) =
      withoutSlashes (pathOf (settled [] (segmentsOf cs)).reverse) := by
  have ends (kept : List String) (last : Bool) :
      withoutSlashes (pathOf (kept ++ if last then [""] else [])) =
        withoutSlashes (pathOf kept) := by
    cases last with
    | false => rw [if_neg Bool.false_ne_true, List.append_nil]
    | true => exact withoutSlashes_pathOf_replicate kept 1
  cases k with
  | zero =>
    rw [List.replicate_zero, List.append_nil]
    cases cs with
    | nil => decide
    | cons c rest =>
      have hc : isSlash true c = true := hcs c rfl
      rw [segmentedPath]
      simp only [hc, if_true]
      rw [withoutSlashes_slash_intercalate, resolveDots_eq]
      exact ends _ _
  | succ k =>
    have empty : (splitSlashes true (List.replicate k '/')).map (encodeWhere pathEncoded) =
        List.replicate (k + 1) "" := by
      induction k with
      | zero => rfl
      | succ k ih =>
        rw [List.replicate_succ, ← List.nil_append ('/' :: _), splitSlashes_append,
          List.map_append, ih]
        rfl
    have plain : ∀ s ∈ List.replicate (k + 1) "", isDots s = false := by
      intro s hs
      rw [List.eq_of_mem_replicate hs]
      decide +kernel
    rw [List.replicate_succ, segmentedPath_append hcs, withoutSlashes_slash_intercalate,
      resolveDots_eq, ends, empty, settled_append, settled_of_plain plain, List.reverse_append,
      List.reverse_reverse, withoutSlashes_pathOf_replicate]

/-- Names at the end of a path stay as they are. -/
theorem segmentedPath_names {names : List String} (hne : names ≠ [])
    (hn : ∀ name ∈ names, IsName name) :
    segmentedPath true (cs ++ (pathOf names).toList) =
      pathOf ((settled [] (segmentsOf cs)).reverse ++ names) := by
  cases names with
  | nil => exact absurd rfl hne
  | cons name names =>
    have plain : ∀ s ∈ name :: names, isDots s = false := fun s hs => (hn s hs).plain
    have last : (segmentsOf cs ++ name :: names).getLast?.any isDots = false := by
      rw [List.getLast?_append_of_ne_nil _ (List.cons_ne_nil name names)]
      cases hg : (name :: names).getLast? with
      | none => rfl
      | some s => exact plain s (List.mem_of_getLast? hg)
    rw [toList_pathOf_cons, segmentedPath_append hcs, splitSlashes_names hn, resolveDots_eq, last,
      settled_append, settled_of_plain plain, List.reverse_append, List.reverse_reverse,
      if_neg Bool.false_ne_true, List.append_nil,
      slash_intercalate (List.append_ne_nil_of_right_ne_nil _ (List.cons_ne_nil name names))]

end

/-- A path ends in a slash where the last of its segments that stays is empty. -/
theorem withoutSlashes_settled_iff {cs : List Char} :
    withoutSlashes (pathOf (settled [] (segmentsOf cs)).reverse) =
        pathOf (settled [] (segmentsOf cs)).reverse ↔
      (settled [] (segmentsOf cs)).head? ≠ some "" := by
  have noSlash : ∀ s ∈ (settled [] (segmentsOf cs)).reverse, '/' ∉ s.toList := by
    intro s hs
    rcases mem_settled (List.mem_reverse.1 hs) with hs | hs
    · cases hs
    · exact slash_notMem_segmentsOf hs
  rw [withoutSlashes_pathOf_iff noSlash, List.getLast?_reverse]

/-- How the segments end that stand for others. -/
theorem ending_of_isDots {segment : String} (h : isDots segment = true) :
    (segment.toList.map Char.toLower).reverse.take 2 ∈
      [['.', '.'], ['e', '2'], ['.', 'e'], ['.']] := by
  rw [← String.toList_map]
  change (segment.toLower.toList).reverse.take 2 ∈ _
  simp only [isDots, isDoubleDot, isSingleDot, Bool.or_eq_true, List.contains_iff_mem, beq_iff_eq,
    List.mem_cons, List.not_mem_nil, or_false] at h
  rcases h with (h | h | h | h) | h | h
  all_goals
    rw [h]
    decide +kernel

theorem encodeWhere_append (special front back : List Char) : encodeWhere special (front ++ back) =
    encodeWhere special front ++ encodeWhere special back := by
  simp only [encodeWhere, List.flatMap_append, String.ofList_append]

private theorem segment_facts : ∀ n < 0x21, let ending :=
      ((encodeWhere pathEncoded [Char.ofNat n]).toList.map Char.toLower).reverse
    2 ≤ ending.length ∧ ending.take 2 ∉ [['.', '.'], ['e','2'], ['.', 'e'], ['.']] := by
  decide +kernel

/-- White space and controls at the end of a segment are encoded, so that it stands for itself. -/
theorem isDots_encodeWhere_concat (cs : List Char) {c : Char} (h : c.toNat ≤ 0x20) :
    isDots (encodeWhere pathEncoded (cs ++ [c])) = false := by
  obtain ⟨hl, he⟩ := segment_facts c.toNat (by omega)
  rw [Char.ofNat_toNat] at hl he
  refine Bool.eq_false_iff.2 fun hd => he ?_
  have hm := ending_of_isDots hd
  rwa [encodeWhere_append, String.toList_append, List.map_append, List.reverse_append,
    List.take_append_of_le_length hl] at hm

theorem length_pathOf_concat (segments : List String) (segment : String) :
    (pathOf (segments ++ [segment])).length = (pathOf segments).length + 1 + segment.length := by
  have one : pathOf [segment] = "/" ++ segment := by simp [pathOf]
  rw [pathOf_append, one, String.length_append, String.length_append, ← Nat.add_assoc]
  rfl

theorem length_settle_le (kept : List String) (segment : String) :
    (pathOf (settle kept segment).reverse).length ≤
      (pathOf kept.reverse).length + 1 + segment.length := by
  unfold settle
  split_ifs
  · cases kept with
    | nil => exact Nat.zero_le _
    | cons last kept =>
      rw [List.tail_cons, List.reverse_cons, length_pathOf_concat]
      omega
  · omega
  · rw [List.reverse_cons, length_pathOf_concat]

/-- White space and controls at its end make a path longer, even behind what stands for other
segments. -/
theorem length_settled_lt {cs pads : List Char} (hcs : cs ≠ []) (hne : pads ≠ [])
    (hp : ∀ c ∈ pads, c.toNat ≤ 0x20) :
    (pathOf (settled [] (segmentsOf cs)).reverse).length <
      (pathOf (settled [] (segmentsOf (cs ++ pads))).reverse).length := by
  obtain ⟨c, rest, rfl⟩ := List.exists_cons_of_ne_nil hcs
  obtain ⟨begin, pad, rfl⟩ : ∃ begin pad, pads = begin ++ [pad] :=
    ⟨_, _, (List.dropLast_append_getLast hne).symm⟩
  have noSlash : ∀ d ∈ begin ++ [pad], isSlash true d = false := by
    intro d hd
    have hl := hp d hd
    refine Bool.eq_false_iff.2 fun hs => ?_
    simp only [isSlash, Bool.or_eq_true, Bool.and_eq_true, beq_iff_eq, true_and] at hs
    rcases hs with rfl | rfl <;> exact absurd hl (by decide)
  have same : ((begin ++ [pad]).map fun d => if isSlash true d = true then '/' else d) =
      begin ++ [pad] := by
    refine (List.map_congr_left fun d hd => ?_).trans (List.map_id _)
    rw [noSlash d hd]
    rfl
  have slash : '/' ∉ begin ++ [pad] := fun hm => absurd (noSlash '/' hm) (by decide)
  obtain ⟨front, last, hs, ha⟩ := exists_splitAll_append
    (rest.map fun d => if isSlash true d = true then '/' else d) slash
  let kept := settled [] (front.map (encodeWhere pathEncoded))
  have before : settled [] (segmentsOf (c :: rest)) =
      settle kept (encodeWhere pathEncoded last) := by
    rw [segmentsOf, splitSlashes, hs, List.map_append, settled_append]
    rfl
  have after : settled [] (segmentsOf (c :: rest ++ (begin ++ [pad]))) =
      encodeWhere pathEncoded (last ++ (begin ++ [pad])) :: kept := by
    rw [List.cons_append, segmentsOf, splitSlashes, List.map_append, same, ha, List.map_append,
      settled_append]
    refine settle_of_plain ?_ kept
    rw [← List.append_assoc]
    exact isDots_encodeWhere_concat _ (hp pad (by simp))
  have longer : (encodeWhere pathEncoded last).length <
      (encodeWhere pathEncoded (last ++ (begin ++ [pad]))).length := by
    have hl := (segment_facts pad.toNat (Nat.lt_succ_of_le (hp pad (by simp)))).1
    rw [Char.ofNat_toNat, List.length_reverse, List.length_map, String.length_toList] at hl
    simp only [encodeWhere_append, String.length_append]
    omega
  have hle := length_settle_le kept (encodeWhere pathEncoded last)
  rw [before, after, List.reverse_cons, length_pathOf_concat]
  omega

end Url
end MultiCluster
