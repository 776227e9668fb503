import MultiCluster.Proofs.Url.Front

/-! Addresses to which paths are appended as text: when that leads to a place below them. -/
namespace MultiCluster.Url

open Text

/-- The place with a path and a query below an address. -/
def below (u : Url) (path : String) (query : Option String) : Url :=
  { u with path := withoutSlashes u.path ++ path, query := query, fragment := none }

/-- A mark behind which there is no path. -/
def endsPath (c : Char) : Bool := c == '?' || c == '#'

theorem endsPath_of_unreserved {c : Char} (h : isUnreserved c = true) : endsPath c = false := by
  refine Bool.eq_false_iff.2 fun he => ?_
  simp only [endsPath, Bool.or_eq_true, beq_iff_eq] at he
  rcases he with rfl | rfl <;> exact absurd h (by decide)

theorem endsPath_of_low {c : Char} (h : c.toNat ≤ 0x20) : endsPath c = false := by
  refine Bool.eq_false_iff.2 fun he => ?_
  simp only [endsPath, Bool.or_eq_true, beq_iff_eq] at he
  rcases he with rfl | rfl <;> exact absurd h (by decide)

theorem not_endsPath (c : Char) : (c != '?' && c != '#') = !endsPath c := by
  rw [endsPath, Bool.not_or]
  rfl

section

variable {u : Url} (hu : isSpecial u.scheme = true) {cs : List Char}
  (h : ∀ c ∈ cs, endsPath c = false)
include hu h

theorem withTail_of_path : u.withTail true cs =
    { u with path := segmentedPath true cs, query := none, fragment := none } := by
  have all : ∀ c ∈ cs, (!endsPath c) = true := fun c hc => by rw [h c hc]; rfl
  simp only [withTail, not_endsPath, List.takeWhile_eq_self_iff.2 all,
    List.dropWhile_eq_nil_iff.2 all, hu, if_true, Option.map_none]

theorem withTail_query {raw : List Char} (hr : '#' ∉ raw) :
    u.withTail true (cs ++ '?' :: raw) = { u with
      path := segmentedPath true cs
      query := some (encodeWhere (queryEncoded true) raw)
      fragment := none } := by
  have all : ∀ c ∈ cs, (!endsPath c) = true := fun c hc => by rw [h c hc]; rfl
  have plain : ∀ c ∈ raw, (c != '#') = true := fun c hc => bne_iff_ne.2 fun he => hr (he ▸ hc)
  have ends : ∀ c ∈ ('?' :: raw).head?, (!endsPath c) = false := by
    rintro _ ⟨⟩
    rfl
  obtain ⟨path, rest⟩ := takeWhile_dropWhile_append all ends
  simp only [withTail, not_endsPath, path, rest, List.takeWhile_eq_self_iff.2 plain,
    List.dropWhile_eq_nil_iff.2 plain, hu, if_true, Option.map_some, Option.map_none]

end

/-- Only the first mark that ends a path matters to it. -/
theorem withTail_path_append {u : Url} {cs : List Char} (h : ∃ c ∈ cs, endsPath c = true)
    (tail : List Char) : (u.withTail true (cs ++ tail)).path = (u.withTail true cs).path := by
  have same : (cs ++ tail).takeWhile (!endsPath ·) = cs.takeWhile (!endsPath ·) := by
    obtain ⟨c, hc, he⟩ := h
    rw [List.takeWhile_append, if_neg fun hl => ?_]
    rw [← (List.takeWhile_prefix _).eq_of_length hl] at hc
    simpa [he] using List.mem_takeWhile_imp hc
  simp only [withTail, not_endsPath, same]

theorem withTail_none_iff {u : Url} {cs : List Char} :
    (u.withTail true cs).query = none ∧ (u.withTail true cs).fragment = none ↔
      ∀ c ∈ cs, endsPath c = false := by
  simp only [withTail, not_endsPath]
  cases hd : cs.dropWhile (!endsPath ·) with
  | nil =>
    have all := List.dropWhile_eq_nil_iff.1 hd
    simpa using all
  | cons c rest =>
    have hc : endsPath c = true := by
      have hf := List.head?_dropWhile_not (!endsPath ·) cs
      rw [hd] at hf
      simpa using hf
    have hm : c ∈ cs := (List.dropWhile_sublist _).mem (hd ▸ List.mem_cons_self)
    have some : ¬ ∀ c ∈ cs, endsPath c = false := fun all => by simp [all c hm] at hc
    simp only [some, iff_false]
    simp only [endsPath, Bool.or_eq_true, beq_iff_eq] at hc
    rcases hc with rfl | rfl <;> simp

/-- The characters of a query that are kept as they are. -/
def IsQuery (raw : String) : Prop :=
  ∀ c ∈ raw.toList, isUnreserved c = true ∨ c ∈ ['%', '&', '=']

theorem isQuery_queryOf (pairs : List (String × String)) : IsQuery (queryOf pairs) := by
  have part (p : String × String) : IsQuery (percentEncode p.1 ++ "=" ++ percentEncode p.2) := by
    intro c hc
    have encoded {s : String} (hs : c ∈ (percentEncode s).toList) :
        isUnreserved c = true ∨ c ∈ ['%', '&', '='] :=
      (mem_percentEncode hs).imp id fun he => by simp [he]
    rw [String.toList_append, String.toList_append, List.mem_append, List.mem_append] at hc
    rcases hc with (hc | hc) | hc
    · exact encoded hc
    · rw [List.mem_singleton.1 hc]
      decide
    · exact encoded hc
  induction pairs with
  | nil => simp [IsQuery, queryOf]
  | cons p pairs ih =>
    cases pairs with
    | nil => simpa [queryOf] using part p
    | cons next pairs =>
      intro c hc
      rw [queryOf, List.map_cons, List.map_cons, String.intercalate_cons_cons, String.toList_append,
        String.toList_append, List.mem_append, List.mem_append] at hc
      rcases hc with (hc | hc) | hc
      · exact part p c hc
      · rw [List.mem_singleton.1 hc]
        decide
      · exact ih c hc

/-- A path and a query as they are appended to an address. -/
def suffixOf (names : List String) (query : Option String) : String :=
  pathOf names ++ (query.map ("?" ++ ·)).getD ""

theorem mem_pathOf {names : List String} (hn : ∀ name ∈ names, IsName name) {c : Char}
    (h : c ∈ (pathOf names).toList) : c = '/' ∨ isUnreserved c = true := by
  induction names with
  | nil => simp [pathOf] at h
  | cons name names ih =>
    rw [toList_pathOf_cons, List.mem_cons, List.mem_append] at h
    rcases h with h | h | h
    · exact .inl h
    · exact .inr ((hn name List.mem_cons_self).unreserved c h)
    · exact ih (fun n hm => hn n (List.mem_cons_of_mem name hm)) h

/-- Names and a query that may be appended. -/
structure IsSuffix (names : List String) (query : Option String) : Prop where
  filled : names ≠ []
  name : ∀ name ∈ names, IsName name
  query : ∀ raw ∈ query, IsQuery raw

section

variable {names : List String} {query : Option String} (h : IsSuffix names query)
include h

theorem exists_suffixOf_eq : ∃ cs, (suffixOf names query).toList = '/' :: cs := by
  obtain ⟨name, rest, rfl⟩ := List.exists_cons_of_ne_nil h.filled
  refine ⟨name.toList ++ (pathOf rest).toList ++ ((query.map ("?" ++ ·)).getD "").toList, ?_⟩
  rw [suffixOf, String.toList_append, toList_pathOf_cons, List.cons_append]

theorem isTail_append_suffixOf {cs : List Char} (hcs : IsTail cs) :
    IsTail (cs ++ (suffixOf names query).toList) := by
  by_cases hne : cs = []
  · subst hne
    obtain ⟨cs, hs⟩ := exists_suffixOf_eq h
    rw [List.nil_append, hs]
    rintro _ ⟨⟩
    decide
  · exact hcs.append hne _

theorem isPadding_of_mem_suffixOf {c : Char} (hc : c ∈ (suffixOf names query).toList) :
    isPadding c = false := by
  have name {c : Char} (hc : isUnreserved c = true) : isPadding c = false := by
    have low : 0x20 < c.toNat := Nat.lt_of_lt_of_le (by decide) (bounds_of_isUnreserved hc).1
    simpa [isPadding] using low
  rw [suffixOf, String.toList_append, List.mem_append] at hc
  rcases hc with hc | hc
  · rcases mem_pathOf h.name hc with rfl | hc
    · decide
    · exact name hc
  · cases query with
    | none => simp at hc
    | some raw =>
      have shown : (((some raw).map ("?" ++ ·)).getD "").toList = '?' :: raw.toList := by simp
      have others : ∀ c ∈ ['%', '&', '='], isPadding c = false := by simp [isPadding]
      rw [shown, List.mem_cons] at hc
      rcases hc with rfl | hc
      · decide
      · rcases h.query raw rfl c hc with hc | hc
        · exact name hc
        · exact others c hc

theorem withTail_suffixOf {u : Url} (hu : isSpecial u.scheme = true) {cs : List Char}
    (hcs : ∀ c ∈ cs, endsPath c = false) :
    u.withTail true (cs ++ (suffixOf names query).toList) = { u with
      path := segmentedPath true (cs ++ (pathOf names).toList), query, fragment := none } := by
  have plain : ∀ c ∈ cs ++ (pathOf names).toList, endsPath c = false := by
    intro c hc
    rcases List.mem_append.1 hc with hc | hc
    · exact hcs c hc
    · rcases mem_pathOf h.name hc with rfl | hc
      · decide
      · exact endsPath_of_unreserved hc
  cases query with
  | none =>
    have shown : (suffixOf names none).toList = (pathOf names).toList := by simp [suffixOf]
    rw [shown, withTail_of_path hu plain]
  | some raw =>
    have shown : (suffixOf names (some raw)).toList =
        (pathOf names).toList ++ '?' :: raw.toList := by
      simp [suffixOf]
    have others : ∀ c ∈ ['%', '&', '='],
        0x20 ≤ c.toNat ∧ c.toNat ≤ 0x7E ∧ c ∉ queryEncoded true ∧ c ≠ '#' := by
      simp [queryEncoded]
    have reserved : (queryEncoded true).any isUnreserved = false := by decide
    have kept : ∀ c ∈ raw.toList,
        0x20 ≤ c.toNat ∧ c.toNat ≤ 0x7E ∧ c ∉ queryEncoded true ∧ c ≠ '#' := by
      intro c hc
      rcases h.query raw rfl c hc with hu | hm
      · have hb := bounds_of_isUnreserved hu
        refine ⟨by omega, hb.2, fun hm => ?_, ?_⟩
        · exact List.any_eq_false.1 reserved c hm hu
        · rintro rfl
          exact absurd hu (by decide)
      · exact others c hm
    have same : encodeWhere (queryEncoded true) raw.toList = raw := by
      rw [encodeWhere_eq_self fun c hc => ⟨(kept c hc).1, (kept c hc).2.1, (kept c hc).2.2.1⟩,
        String.ofList_toList]
    rw [shown, ← List.append_assoc, withTail_query hu plain fun hm => (kept '#' hm).2.2.2 rfl, same]

end

theorem isSlash_of_isTail {cs : List Char} (ht : IsTail cs) (h : ∀ c ∈ cs, endsPath c = false) :
    ∀ c ∈ cs.head?, isSlash true c = true := by
  intro c hc
  have he := ht c hc
  have hp := h c (List.mem_of_mem_head? hc)
  simp only [endsPath, Bool.or_eq_false_iff] at hp
  simpa [endsAuthority, hp.1, hp.2] using he

theorem withoutSlashes_withTail_path {u : Url} (hu : isSpecial u.scheme = true) {cs : List Char}
    (ht : IsTail cs) (h : ∀ c ∈ cs, endsPath c = false) (k : Nat) :
    withoutSlashes (u.withTail true (cs ++ List.replicate k '/')).path =
      withoutSlashes (pathOf (settled [] (segmentsOf cs)).reverse) := by
  have plain : ∀ c ∈ cs ++ List.replicate k '/', endsPath c = false := by
    intro c hc
    rcases List.mem_append.1 hc with hc | hc
    · exact h c hc
    · rw [List.eq_of_mem_replicate hc]
      decide
  rw [withTail_of_path hu plain]
  exact withoutSlashes_segmentedPath (isSlash_of_isTail ht h) k

/-- Whether a path may be appended to an address as text. -/
structure IsTidy (address : String) (u : Url) : Prop where
  /-- No white space that counts is cut off at its end. -/
  whole : significant address = opening address
  query : u.query = none
  fragment : u.fragment = none
  /-- The segments that stay do not end in an empty one. -/
  filled : (settled [] (segmentsOf (behind (opening (withoutSlashes address))))).head? ≠ some ""

section

variable {names : List String} {query : Option String} (h : IsSuffix names query)
include h

/-- What is appended follows the segments that stay of the path in front of it. -/
theorem withTail_append_suffixOf {u : Url} (hu : isSpecial u.scheme = true) {cs : List Char}
    (ht : IsTail cs) (hcs : ∀ c ∈ cs, endsPath c = false) :
    u.withTail true (cs ++ (suffixOf names query).toList) = { u with
      path := pathOf (settled [] (segmentsOf cs)).reverse ++ pathOf names
      query := query
      fragment := none } := by
  rw [withTail_suffixOf h hu hcs, segmentedPath_names (isSlash_of_isTail ht hcs) h.filled h.name,
    pathOf_append]

theorem length_pathOf_pos : 0 < (pathOf names).length := by
  obtain ⟨name, rest, rfl⟩ := List.exists_cons_of_ne_nil h.filled
  rw [← List.singleton_append, pathOf_append, String.length_append,
    ← List.nil_append [name], length_pathOf_concat]
  omega

theorem withoutSlashes_append_pathOf (s : String) :
    withoutSlashes (s ++ pathOf names) = s ++ pathOf names := by
  have noSlash : ∀ name ∈ names, '/' ∉ name.toList := fun name hm hc =>
    absurd ((h.name name hm).unreserved '/' hc) (by decide)
  have last : names.getLast? ≠ some "" := fun he =>
    (h.name "" (List.mem_of_getLast? he)).filled rfl
  have hne : (pathOf names).toList ≠ [] := by
    have := length_pathOf_pos h
    rw [← String.length_toList] at this
    exact List.ne_nil_of_length_pos this
  rw [withoutSlashes_eq_self_iff, String.toList_append, List.getLast?_append_of_ne_nil _ hne]
  exact withoutSlashes_eq_self_iff.1 ((withoutSlashes_pathOf_iff noSlash).2 last)

/-- No address is at a place below itself. -/
theorem path_ne_below (u : Url) : u.path ≠ (u.below (pathOf names) query).path := by
  intro he
  have he : u.path = withoutSlashes u.path ++ pathOf names := he
  have hw := congrArg withoutSlashes he
  rw [withoutSlashes_append_pathOf h] at hw
  have hl := congrArg String.length hw
  rw [String.length_append] at hl
  have := length_pathOf_pos h
  omega

end

instance (address : String) (u : Url) : Decidable (IsTidy address u) :=
  decidable_of_iff (significant address = opening address ∧ u.query = none ∧ u.fragment = none ∧
      (settled [] (segmentsOf (behind (opening (withoutSlashes address))))).head? ≠ some "")
    ⟨fun ⟨hw, hq, hf, hs⟩ => ⟨hw, hq, hf, hs⟩, fun ⟨hw, hq, hf, hs⟩ => ⟨hw, hq, hf, hs⟩⟩

/-- The server that an address is on: all of it in front of the path. -/
def server (u : Url) : Url := { u with path := "", query := none, fragment := none }

theorem exists_base {address : String} {u : Url} (h : parse address = .ok u) (hu : u.isWeb = true) :
    ∃ front located tail path, IsFront front located ∧ IsTail tail ∧
      u = located.withTail true tail ∧ opening (withoutSlashes address) = front ++ path ∧
      ((significant address = opening address ∧ IsTail path ∧
          ∃ k, tail = path ++ List.replicate k '/') ∨
        (significant address ≠ opening address ∧ ∃ pads, pads ≠ [] ∧
          (∀ c ∈ pads, isPadding c = true) ∧ path = tail ++ pads)) := by
  obtain ⟨front, located, tail, hf, ht, hs, rfl⟩ := exists_isFront h hu
  rcases opening_withoutSlashes address with ⟨hw, k, hk⟩ | ⟨hw, pads, hne, hp, ho⟩
  · obtain ⟨path, hb, htail⟩ : ∃ path, opening (withoutSlashes address) = front ++ path ∧
        tail = path ++ List.replicate k '/' := by
      rw [hs] at hk
      rcases List.append_eq_append_iff.1 hk with ⟨path, hb, htail⟩ | ⟨slashes, hfront, hsl⟩
      · exact ⟨path, hb, htail⟩
      · have none : slashes = [] := by
          by_contra hne
          obtain ⟨c, hc, he⟩ := hf.ends
          rw [hfront, List.getLast?_append_of_ne_nil _ hne] at hc
          have hm : c ∈ List.replicate k '/' := by
            rw [hsl]
            exact List.mem_append_left _ (List.mem_of_getLast? hc)
          rw [List.eq_of_mem_replicate hm] at he
          exact absurd he (by decide)
        subst none
        exact ⟨[], by rw [hfront, List.append_nil, List.append_nil], hsl.symm⟩
    rw [htail] at ht ⊢
    exact ⟨front, located, _, path, hf, ht, rfl, hb, .inl ⟨hw, ht.of_append, k, rfl⟩⟩
  · exact ⟨front, located, tail, tail ++ pads, hf, ht, rfl,
      by rw [ho, hs, List.append_assoc], .inr ⟨hw, pads, hne, hp, rfl⟩⟩

section

variable {address : String} {u : Url} (ha : parse address = .ok u) (hu : u.isWeb = true)
  {names : List String} {query : Option String} (hs : IsSuffix names query)
include ha hu hs

/-- What is appended follows the path of the address. Where white space was cut off it follows that,
which no host ends in. -/
theorem parse_suffixOf_cases : ∃ (located : Url) (tail : List Char),
    u = located.withTail true tail ∧ isSpecial located.scheme = true ∧ IsTail tail ∧
    ((significant address = opening address ∧ ∃ path k,
        behind (opening (withoutSlashes address)) = path ∧ IsTail path ∧
        tail = path ++ List.replicate k '/' ∧
        parse (withoutSlashes address ++ suffixOf names query) =
          .ok (located.withTail true (path ++ (suffixOf names query).toList))) ∨
      significant address ≠ opening address ∧
        ((∃ fault, parse (withoutSlashes address ++ suffixOf names query) = .error fault) ∨
          tail ≠ [] ∧ ∃ pads, pads ≠ [] ∧ (∀ c ∈ pads, isPadding c = true) ∧
            parse (withoutSlashes address ++ suffixOf names query) =
              .ok (located.withTail true (tail ++ pads ++ (suffixOf names query).toList)))) := by
  obtain ⟨front, located, tail, path, hf, ht, rfl, hb, hcase⟩ := exists_base ha hu
  have hsp : isSpecial located.scheme = true := by
    rcases isWeb_iff.1 hf.isWeb with he | he <;> rw [he] <;> decide
  have hne : suffixOf names query ≠ "" := by
    intro he
    obtain ⟨cs, hcs⟩ := exists_suffixOf_eq hs
    rw [he] at hcs
    cases hcs
  have sig : significant (withoutSlashes address ++ suffixOf names query) =
      front ++ (path ++ (suffixOf names query).toList) := by
    rw [significant_append (fun c hc => isPadding_of_mem_suffixOf hs hc) hne, hb, List.append_assoc]
  refine ⟨located, tail, rfl, hsp, ht, ?_⟩
  rcases hcase with ⟨hw, hpath, k, hk⟩ | ⟨hw, pads, hpne, hp, rfl⟩
  · refine .inl ⟨hw, path, k, ?_, hpath, hk, ?_⟩
    · rw [hb, hf.behind path hpath]
    · exact hf.parse _ _ (isTail_append_suffixOf hs hpath) sig
  · refine .inr ⟨hw, ?_⟩
    by_cases htail : tail = []
    · subst htail
      exact .inl (hf.refuses _ pads _ hpne hp (isTail_append_suffixOf hs ht) sig)
    · exact .inr ⟨htail, pads, hpne, hp,
        hf.parse _ _ (isTail_append_suffixOf hs (ht.append htail pads)) sig⟩

/-- What is appended to an address leads nowhere or to its own server. -/
theorem server_of_parse {p : Url}
    (hp : parse (withoutSlashes address ++ suffixOf names query) = .ok p) :
    p.server = u.server := by
  obtain ⟨located, tail, rfl, -, -, hcases⟩ := parse_suffixOf_cases ha hu hs
  rcases hcases with ⟨-, path, k, -, -, -, h⟩ | ⟨-, ⟨fault, h⟩ | ⟨-, pads, -, -, h⟩⟩
  · cases h.symm.trans hp
    rfl
  · cases h.symm.trans hp
  · cases h.symm.trans hp
    rfl

/-- What is appended to a tidy address leads to the place below it. -/
theorem parse_of_isTidy (ht : IsTidy address u) :
    parse (withoutSlashes address ++ suffixOf names query) =
      .ok (u.below (pathOf names) query) := by
  obtain ⟨located, tail, rfl, hsp, -, hcases⟩ := parse_suffixOf_cases ha hu hs
  obtain ⟨hw, hquery, hfragment, hfilled⟩ := ht
  have plain := withTail_none_iff.1 ⟨hquery, hfragment⟩
  rcases hcases with ⟨-, path, k, hb, hpath, rfl, h⟩ | ⟨hn, -⟩
  · have inner : ∀ c ∈ path, endsPath c = false := fun c hc => plain c (List.mem_append_left _ hc)
    rw [hb] at hfilled
    rw [h, withTail_append_suffixOf hs hsp hpath inner, below,
      withoutSlashes_withTail_path hsp hpath inner, withoutSlashes_settled_iff.2 hfilled]
    rfl
  · exact absurd hw hn

section

variable {p : Url} (hp : parse (withoutSlashes address ++ suffixOf names query) = .ok p)
  (path : p.path = withoutSlashes u.path ++ pathOf names)
include hp path

/-- Behind a query or a fragment nothing reaches the path. -/
theorem query_of_path : u.query = none ∧ u.fragment = none := by
  obtain ⟨located, tail, rfl, -, -, hcases⟩ := parse_suffixOf_cases ha hu hs
  refine withTail_none_iff.2 ?_
  by_contra marked
  simp only [not_forall, Bool.not_eq_false] at marked
  obtain ⟨c, hc, he⟩ := marked
  have other {v : Url} (hv : parse (withoutSlashes address ++ suffixOf names query) = .ok v)
      (same : v.path = (located.withTail true tail).path) : False := by
    cases hv.symm.trans hp
    exact path_ne_below hs _ (same.symm.trans path)
  rcases hcases with ⟨-, front, k, -, -, rfl, hr⟩ | ⟨-, ⟨fault, hr⟩ | ⟨-, pads, -, -, hr⟩⟩
  · have inner : ∃ c ∈ front, endsPath c = true := by
      rcases List.mem_append.1 hc with hc | hc
      · exact ⟨c, hc, he⟩
      · rw [List.eq_of_mem_replicate hc] at he
        exact absurd he (by decide)
    refine other hr ?_
    rw [withTail_path_append inner, withTail_path_append inner]
  · cases hr.symm.trans hp
  · refine other hr ?_
    rw [List.append_assoc, withTail_path_append ⟨c, hc, he⟩]

/-- What is appended to any other address never has the path of the place below it. -/
theorem isTidy_of_path : IsTidy address u := by
  obtain ⟨hquery, hfragment⟩ := query_of_path ha hu hs hp path
  obtain ⟨located, tail, rfl, hsp, ht, hcases⟩ := parse_suffixOf_cases ha hu hs
  have plain := withTail_none_iff.1 ⟨hquery, hfragment⟩
  have front {kept : String} {v : Url} (hv : v.path = kept ++ pathOf names)
      (hr : parse (withoutSlashes address ++ suffixOf names query) = .ok v) :
      kept = withoutSlashes (located.withTail true tail).path := by
    cases hr.symm.trans hp
    have same := hv.symm.trans path
    rw [← String.toList_inj, String.toList_append, String.toList_append] at same
    exact String.toList_inj.1 (List.append_cancel_right same)
  rcases hcases with ⟨hw, cs, k, hb, hcs, rfl, hr⟩ |
    ⟨-, ⟨fault, hr⟩ | ⟨hne, pads, hpne, hpads, hr⟩⟩
  · have inner : ∀ c ∈ cs, endsPath c = false := fun c hc => plain c (List.mem_append_left _ hc)
    rw [withTail_append_suffixOf hs hsp hcs inner] at hr
    have same := front rfl hr
    rw [withoutSlashes_withTail_path hsp hcs inner] at same
    refine ⟨hw, hquery, hfragment, ?_⟩
    rw [hb]
    exact withoutSlashes_settled_iff.1 same.symm
  · cases hr.symm.trans hp
  · -- what was cut off is encoded here, which makes the path longer
    have low : ∀ c ∈ pads, c.toNat ≤ 0x20 := fun c hc => by simpa [isPadding] using hpads c hc
    have inner : ∀ c ∈ tail ++ pads, endsPath c = false := by
      intro c hc
      rcases List.mem_append.1 hc with hc | hc
      · exact plain c hc
      · exact endsPath_of_low (low c hc)
    rw [withTail_append_suffixOf hs hsp (ht.append hne pads) inner] at hr
    have same := front rfl hr
    have before := withoutSlashes_withTail_path hsp ht plain 0
    rw [List.replicate_zero, List.append_nil] at before
    have hl := length_settled_lt hne hpne low
    rw [same, before] at hl
    exact absurd (length_withoutSlashes_le _) (Nat.not_le.2 hl)

end

end

end MultiCluster.Url
