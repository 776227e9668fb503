import Mathlib.Data.List.TakeDrop
import MultiCluster.Proofs.Json.Fields
import MultiCluster.Proofs.Url.Host
import MultiCluster.Proofs.Url.Path

/-! Addresses of the web that go on: what stands in front of the path decides where they lead, and
the path, the query and the fragment follow from the rest alone. -/
namespace MultiCluster.Url

open Text

/-- The characters that count of a text that others follow. -/
def opening (s : String) : List Char := (s.toList.dropWhile isPadding).filter (!isIgnored ·)

theorem isPadding_of_isIgnored {c : Char} (h : isIgnored c = true) : isPadding c = true := by
  simp only [isIgnored, Bool.or_eq_true, beq_iff_eq] at h
  rcases h with (rfl | rfl) | rfl <;> decide

theorem isIgnored_eq_false {c : Char} (h : isPadding c = false) : isIgnored c = false :=
  Bool.eq_false_iff.2 fun hi => by simp [isPadding_of_isIgnored hi] at h

theorem filter_isIgnored {cs : List Char} (h : ∀ c ∈ cs, isPadding c = false) :
    cs.filter (!isIgnored ·) = cs :=
  List.filter_eq_self.2 fun c hc => by rw [isIgnored_eq_false (h c hc)]; rfl

theorem opening_append {s t : String} (h : ∀ c ∈ t.toList, isPadding c = false) :
    opening (s ++ t) = opening s ++ t.toList := by
  have ht : t.toList.dropWhile isPadding = t.toList := by
    cases hl : t.toList with
    | nil => rfl
    | cons c cs => rw [List.dropWhile_cons_of_neg (by simp [h c (hl ▸ List.mem_cons_self)])]
  have starts : (s ++ t).toList.dropWhile isPadding = s.toList.dropWhile isPadding ++ t.toList := by
    rw [String.toList_append, List.dropWhile_append, ht]
    split
    · next he => rw [List.isEmpty_iff.1 he, List.nil_append]
    · rfl
  rw [opening, starts, List.filter_append, filter_isIgnored h, opening]

/-- White space and controls at the end of an address do not count, but do where others follow. -/
theorem exists_opening_eq (s : String) : ∃ pads, opening s = significant s ++ pads ∧
    ∀ c ∈ pads, isPadding c = true := by
  obtain ⟨pads, hp, hpads⟩ := exists_eq_dropEnd_append isPadding (s.toList.dropWhile isPadding)
  refine ⟨pads.filter (!isIgnored ·), ?_, fun c hc => ?_⟩
  · rw [opening, significant, ← List.filter_append, ← hp]
  · exact hpads c (List.mem_filter.1 hc).1

/-- All that counts of an address counts where others follow. -/
theorem significant_of_last {s : String} (h : ∀ c ∈ s.toList.getLast?, isPadding c = false) :
    significant s = opening s := by
  have kept : dropEnd isPadding (s.toList.dropWhile isPadding) = s.toList.dropWhile isPadding := by
    rw [dropEnd_eq_self_iff]
    intro c hc
    obtain ⟨front, hf⟩ := List.dropWhile_suffix isPadding (l := s.toList)
    have hne : s.toList.dropWhile isPadding ≠ [] := by
      intro he
      rw [he] at hc
      cases hc
    refine h c ?_
    rw [← hf, List.getLast?_append_of_ne_nil front hne]
    exact hc
  rw [significant, kept, opening]

theorem significant_append {s t : String} (h : ∀ c ∈ t.toList, isPadding c = false) (hne : t ≠ "") :
    significant (s ++ t) = opening s ++ t.toList := by
  rw [significant_of_last, opening_append h]
  intro c hc
  have ht : t.toList ≠ [] := fun he => hne (String.toList_inj.1 he)
  rw [String.toList_append, List.getLast?_append_of_ne_nil _ ht] at hc
  exact h c (List.mem_of_getLast? hc)

/-- An address without slashes at its end goes on as the whole address does, but for the slashes and
for what is cut off at the end. -/
theorem opening_withoutSlashes (s : String) :
    (significant s = opening s ∧
      ∃ k, significant s = opening (withoutSlashes s) ++ List.replicate k '/') ∨
    (significant s ≠ opening s ∧
      ∃ pads, pads ≠ [] ∧ (∀ c ∈ pads, isPadding c = true) ∧
        opening (withoutSlashes s) = significant s ++ pads) := by
  obtain ⟨cs, hcs, hall⟩ := exists_eq_dropEnd_append (· == '/') s.toList
  obtain ⟨k, rfl⟩ : ∃ k, cs = List.replicate k '/' :=
    ⟨cs.length, List.eq_replicate_of_mem fun c hc => beq_iff_eq.1 (hall c hc)⟩
  have hk : s = withoutSlashes s ++ String.ofList (List.replicate k '/') := by
    rw [← String.toList_inj, String.toList_append, String.toList_ofList, withoutSlashes,
      String.toList_ofList, ← hcs]
  have slashes : ∀ c ∈ (String.ofList (List.replicate k '/')).toList, isPadding c = false := by
    intro c hc
    rw [String.toList_ofList] at hc
    rw [List.eq_of_mem_replicate hc]
    decide
  have whole : opening s = opening (withoutSlashes s) ++ List.replicate k '/' := by
    conv_lhs => rw [hk]
    rw [opening_append slashes, String.toList_ofList]
  obtain ⟨pads, hp, hpads⟩ := exists_opening_eq s
  by_cases hne : pads = []
  · subst hne
    rw [List.append_nil] at hp
    exact .inl ⟨hp.symm, k, hp ▸ whole⟩
  · refine .inr ⟨fun he => ?_, pads, hne, hpads, ?_⟩
    · rw [← he] at hp
      exact hne (List.self_eq_append_right.1 hp)
    cases k with
    | zero => rw [← hp, whole, List.replicate_zero, List.append_nil]
    | succ k =>
      have last : pads.getLast? = some '/' := by
        rw [← List.getLast?_append_of_ne_nil (significant s) hne, ← hp, whole,
          List.getLast?_append_of_ne_nil _ (by simp), List.getLast?_replicate,
          if_neg k.succ_ne_zero]
      exact absurd (hpads '/' (List.mem_of_getLast? last)) (by decide)

/-- What an address of the web is in front of its path, from the part with the host. -/
def locate (scheme : String) (authority : List Char) : Except Fault Url := do
  let (user, hostAndPort) := splitUser authority
  let (name, password) := splitFirst ':' (user.getD [])
  let (hostText, portText) := splitHost false hostAndPort
  let host ← Host.parse hostText
  let port ← readPort scheme portText
  return { ofScheme scheme with
    user := encodeWhere userEncoded name
    password := if password.isEmpty then none else some (encodeWhere userEncoded password)
    host := some host
    port }

theorem splitUser_append (authority : List Char) {pads : List Char} (h : '@' ∉ pads) :
    splitUser (authority ++ pads) = ((splitUser authority).1, (splitUser authority).2 ++ pads) := by
  have all : ∀ c ∈ pads.reverse, (c != '@') = true := by
    intro c hc
    exact bne_iff_ne.2 fun he => h (he ▸ List.mem_reverse.1 hc)
  unfold splitUser
  rw [List.reverse_append, List.span_eq_takeWhile_dropWhile, List.span_eq_takeWhile_dropWhile,
    List.takeWhile_append_of_pos all, List.dropWhile_append_of_pos all]
  cases authority.reverse.dropWhile (· != '@') with
  | nil => rfl
  | cons mark front => simp

theorem splitHost_append {pads : List Char} (h : ':' ∉ pads) (inBrackets : Bool) (cs : List Char) :
    splitHost inBrackets (cs ++ pads) =
      if (splitHost inBrackets cs).2 = [] then ((splitHost inBrackets cs).1 ++ pads, [])
      else ((splitHost inBrackets cs).1, (splitHost inBrackets cs).2 ++ pads) := by
  induction cs generalizing inBrackets with
  | nil =>
    induction pads generalizing inBrackets with
    | nil => rfl
    | cons c pads ih =>
      have hc : c ≠ ':' := fun he => h (he ▸ List.mem_cons_self)
      have rest (b : Bool) := ih (fun hm => h (List.mem_cons_of_mem c hm)) b
      simp only [List.nil_append, splitHost, if_true] at rest
      simp [splitHost, hc, rest]
  | cons c cs ih =>
    rw [List.cons_append, splitHost, splitHost]
    split
    · simp
    · simp only [ih]
      split_ifs <;> rfl

theorem readPort_append (scheme : String) {cs pads : List Char} (hcs : cs ≠ []) (hne : pads ≠ [])
    (h : ∀ c ∈ pads, c.isDigit = false) : readPort scheme (cs ++ pads) = .error .port := by
  obtain ⟨c, digits, rfl⟩ := List.exists_cons_of_ne_nil hcs
  obtain ⟨d, pads, rfl⟩ := List.exists_cons_of_ne_nil hne
  have unread : readDigits (digits ++ d :: pads) = none := by
    simp [readDigits, h d List.mem_cons_self]
  obtain ⟨x, xs, hx⟩ := List.exists_cons_of_ne_nil
    (List.append_ne_nil_of_right_ne_nil digits (List.cons_ne_nil d pads))
  rw [hx] at unread
  rw [List.cons_append, hx, readPort]
  · rw [unread]
  · rintro - ⟨⟩

/-- No part with a host is one still when white space or controls follow it. -/
theorem locate_append {scheme : String} {authority pads : List Char} {located : Url}
    (h : locate scheme authority = .ok located) (hne : pads ≠ [])
    (hp : ∀ c ∈ pads, isPadding c = true) :
    ∃ fault, locate scheme (authority ++ pads) = .error fault := by
  have absent {c : Char} (hc : isPadding c = false) : c ∉ pads := by
    intro hm
    rw [hp c hm] at hc
    cases hc
  obtain ⟨host, hh⟩ : ∃ host,
      Host.parse (splitHost false (splitUser authority).2).1 = .ok host := by
    obtain ⟨host, hh, -⟩ := bind_eq_ok_iff.1 h
    exact ⟨host, hh⟩
  unfold locate
  simp only [splitUser_append authority (absent (by decide : isPadding '@' = false)),
    splitHost_append (absent (by decide : isPadding ':' = false))]
  split
  · obtain ⟨front, c, rfl⟩ : ∃ front c, pads = front ++ [c] :=
      ⟨_, _, (List.dropLast_append_getLast hne).symm⟩
    have hl : c.toNat ≤ 0x20 := by simpa [isPadding] using hp c (by simp)
    obtain ⟨fault, hf⟩ := Host.parse_of_low
      ((splitHost false (splitUser authority).2).1 ++ front) hl
    refine ⟨fault, ?_⟩
    simp only [← List.append_assoc, hf]
    rfl
  · next hport =>
    have notDigit : ∀ c ∈ pads, c.isDigit = false := by
      intro c hc
      refine Bool.eq_false_iff.2 fun hd => ?_
      have hl := hp c hc
      simp only [isPadding, decide_eq_true_eq, Char.isDigit, Bool.and_eq_true, ge_iff_le,
        UInt32.le_iff_toNat_le] at hl hd
      have hz : '0'.val.toNat = 48 := rfl
      have hv : c.toNat = c.val.toNat := rfl
      omega
    refine ⟨.port, ?_⟩
    simp only [hh, readPort_append scheme hport hne notDigit]
    rfl

theorem parseAuthority_eq {scheme : String} (h : isSpecial scheme = true) (cs : List Char) :
    parseAuthority scheme cs = (locate scheme (cs.takeWhile (!endsAuthority true ·))).map
      (·.withTail true (cs.dropWhile (!endsAuthority true ·))) := by
  unfold parseAuthority locate
  simp only [h, if_true]
  generalize cs.takeWhile (!endsAuthority true ·) = authority
  generalize cs.dropWhile (!endsAuthority true ·) = rest
  cases hh : Host.parse (splitHost false (splitUser authority).2).1 with
  | error fault => rfl
  | ok host =>
    have filled : (splitHost false (splitUser authority).2).1.isEmpty = false := by
      refine Bool.eq_false_iff.2 fun he => ?_
      rw [List.isEmpty_iff.1 he] at hh
      cases hh
    simp only [filled, Bool.false_and]
    cases readPort scheme (splitHost false (splitUser authority).2).2 <;> rfl

theorem parseAuthority_scheme {scheme : String} {cs : List Char} {u : Url}
    (h : parseAuthority scheme cs = .ok u) : u.scheme = scheme := by
  unfold parseAuthority at h
  simp only at h
  split at h
  all_goals
    obtain ⟨host, -, h⟩ := bind_eq_ok_iff.1 h
    split at h
    · cases h
    · obtain ⟨port, -, ⟨⟩⟩ := bind_eq_ok_iff.1 h
      rfl

theorem parseFile_scheme {cs : List Char} {u : Url} (h : parseFile cs = .ok u) :
    u.scheme = file := by
  unfold parseFile at h
  simp only at h
  split at h
  · split at h
    · split at h
      · cases h
        rfl
      · obtain ⟨host, -, ⟨⟩⟩ := bind_eq_ok_iff.1 h
        rfl
    · cases h
      rfl
  · cases h
    rfl

theorem isWeb_iff {u : Url} : u.isWeb = true ↔ u.scheme = "http" ∨ u.scheme = "https" := by
  simp [isWeb]

theorem parse_eq_parseAuthority {s scheme : String} {rest : List Char}
    (h : splitScheme (significant s) = some (scheme, rest)) (hp : isSpecial scheme = true)
    (hf : scheme ≠ file) : parse s = parseAuthority scheme (rest.dropWhile (isSlash true)) := by
  rw [parse, h]
  simp only
  rw [if_neg (by simpa using hf), if_pos hp]

/-- An address of the web has a host behind its scheme, and nothing else decides what it is. -/
theorem exists_of_parse {s : String} {u : Url} (h : parse s = .ok u) (hu : u.isWeb = true) :
    ∃ scheme rest, splitScheme (significant s) = some (scheme, rest) ∧
      isSpecial scheme = true ∧ scheme ≠ file ∧
        parseAuthority scheme (rest.dropWhile (isSlash true)) = .ok u := by
  rw [parse] at h
  cases hs : splitScheme (significant s) with
  | none =>
    rw [hs] at h
    cases h
  | some parts =>
    obtain ⟨scheme, rest⟩ := parts
    rw [hs] at h
    have web {v : Url} (hv : v.scheme = scheme) (he : v = u) :
        scheme ≠ file ∧ isSpecial scheme = true := by
      subst he hv
      rcases isWeb_iff.1 hu with he | he <;> rw [he] <;> decide
    simp only at h
    split_ifs at h with hf hp
    · exact absurd (beq_iff_eq.1 hf) (web ((parseFile_scheme h).trans (beq_iff_eq.1 hf).symm) rfl).1
    · exact ⟨scheme, rest, rfl, hp, fun he => hf (beq_iff_eq.2 he), h⟩
    · split at h
      · exact absurd (web (parseAuthority_scheme h) rfl).2 hp
      · cases h
        exact absurd (web rfl rfl).2 hp
      · cases h
        exact absurd (web rfl rfl).2 hp

theorem exists_of_splitScheme {cs rest : List Char} {scheme : String}
    (h : splitScheme cs = some (scheme, rest)) : ∃ name, cs = name ++ ':' :: rest ∧
      ∀ others, splitScheme (name ++ ':' :: others) = some (scheme, others) := by
  let isPart (c : Char) : Bool := c.isAlphanum || c == '+' || c == '-' || c == '.'
  have colon : isPart ':' = false := by decide
  have parts : cs.takeWhile isPart ++ cs.dropWhile isPart = cs := List.takeWhile_append_dropWhile
  have all : ∀ c ∈ cs.takeWhile isPart, isPart c = true := fun c hc => List.mem_takeWhile_imp hc
  have again (others : List Char) :
      (cs.takeWhile isPart ++ ':' :: others).takeWhile isPart = cs.takeWhile isPart ∧
        (cs.takeWhile isPart ++ ':' :: others).dropWhile isPart = ':' :: others :=
    takeWhile_dropWhile_append all (by rintro _ ⟨⟩; exact colon)
  have shown {cs more tail : List Char} {first : Char} (ht : cs.takeWhile isPart = first :: more)
      (hd : cs.dropWhile isPart = ':' :: tail) (alpha : first.isAlpha = true) :
      splitScheme cs = some (String.ofList ((first :: more).map Char.toLower), tail) := by
    simp only [splitScheme]
    rw [ht, hd]
    simp only [alpha, if_true]
  refine ⟨cs.takeWhile isPart, ?_⟩
  simp only [splitScheme] at h
  split at h
  · next first more tail ht hd =>
    split at h
    · next alpha =>
      cases h
      refine ⟨?_, fun others => ?_⟩
      · rw [← hd, parts]
      · exact shown ((again others).1.trans ht) (again others).2 alpha
    · cases h
  · cases h

/-- Nothing, or what starts with a mark that ends the part with the host. -/
def IsTail (cs : List Char) : Prop := ∀ c ∈ cs.head?, endsAuthority true c = true

theorem IsTail.append {cs : List Char} (h : IsTail cs) (hne : cs ≠ []) (rest : List Char) :
    IsTail (cs ++ rest) := by
  obtain ⟨c, cs, rfl⟩ := List.exists_cons_of_ne_nil hne
  exact h

theorem IsTail.of_append {cs rest : List Char} (h : IsTail (cs ++ rest)) : IsTail cs := by
  cases cs with
  | nil => rintro _ ⟨⟩
  | cons c cs => exact h

/-- What follows the part with the host in the characters of an address of the web. -/
def behind (cs : List Char) : List Char :=
  match splitScheme cs with
  | none => []
  | some (_, rest) => (rest.dropWhile (isSlash true)).dropWhile (!endsAuthority true ·)

/-- What an address is in front of its path decides the server, and leaves the rest to what
follows. -/
structure IsFront (front : List Char) (located : Url) : Prop where
  isWeb : located.isWeb = true
  ends : ∃ c, front.getLast? = some c ∧ endsAuthority true c = false
  behind : ∀ tail, IsTail tail → behind (front ++ tail) = tail
  parse : ∀ s tail, IsTail tail → significant s = front ++ tail →
    parse s = .ok (located.withTail true tail)
  refuses : ∀ s pads tail, pads ≠ [] → (∀ c ∈ pads, isPadding c = true) → IsTail tail →
    significant s = front ++ (pads ++ tail) → ∃ fault, Url.parse s = .error fault

/-- The part with the host starts with no slash and ends where the tail starts. -/
theorem takeWhile_part {slashes authority tail : List Char}
    (hs : ∀ c ∈ slashes, isSlash true c = true)
    (ha : ∀ c ∈ authority, endsAuthority true c = false) (hne : authority ≠ []) (ht : IsTail tail) :
    (slashes ++ authority ++ tail).dropWhile (isSlash true) = authority ++ tail ∧
      (authority ++ tail).takeWhile (!endsAuthority true ·) = authority ∧
      (authority ++ tail).dropWhile (!endsAuthority true ·) = tail := by
  have part : ∀ c ∈ authority, (!endsAuthority true c) = true := fun c hc => by rw [ha c hc]; rfl
  refine ⟨?_, takeWhile_dropWhile_append part fun c hc => by rw [ht c hc]; rfl⟩
  have starts : ∀ c ∈ (authority ++ tail).head?, isSlash true c = false := by
    obtain ⟨c, cs, rfl⟩ := List.exists_cons_of_ne_nil hne
    rintro _ ⟨⟩
    have he := ha c List.mem_cons_self
    simp only [endsAuthority, Bool.or_eq_false_iff] at he
    exact he.1.1
  rw [List.append_assoc, (takeWhile_dropWhile_append hs starts).2]

theorem isFront_of_locate {scheme : String} {name slashes authority : List Char} {located : Url}
    (hn : ∀ rest, splitScheme (name ++ ':' :: rest) = some (scheme, rest))
    (hp : isSpecial scheme = true) (hf : scheme ≠ file)
    (hs : ∀ c ∈ slashes, isSlash true c = true)
    (ha : ∀ c ∈ authority, endsAuthority true c = false)
    (hl : locate scheme authority = .ok located) (hu : located.isWeb = true) :
    IsFront (name ++ ':' :: (slashes ++ authority)) located := by
  have hne : authority ≠ [] := by
    rintro rfl
    cases hl
  have whole (tail : List Char) : name ++ ':' :: (slashes ++ authority) ++ tail =
      name ++ ':' :: (slashes ++ authority ++ tail) := by
    simp
  constructor
  case isWeb => exact hu
  case ends =>
    have last : name ++ ':' :: (slashes ++ authority) = name ++ ':' :: slashes ++ authority := by
      simp
    refine ⟨authority.getLast hne, ?_, ha _ (List.getLast_mem hne)⟩
    rw [last, List.getLast?_append_of_ne_nil _ hne, List.getLast?_eq_some_getLast hne]
  case behind =>
    intro tail ht
    obtain ⟨hd, -, hr⟩ := takeWhile_part hs ha hne ht
    rw [behind, whole, hn]
    simp only
    rw [hd, hr]
  case parse =>
    intro s tail ht hsig
    obtain ⟨hd, hk, hr⟩ := takeWhile_part hs ha hne ht
    rw [parse_eq_parseAuthority (by rw [hsig, whole, hn]) hp hf, hd, parseAuthority_eq hp, hk, hr,
      hl]
    rfl
  case refuses =>
    intro s pads tail hpads hall ht hsig
    have part : ∀ c ∈ authority ++ pads, endsAuthority true c = false := by
      intro c hc
      rcases List.mem_append.1 hc with hc | hc
      · exact ha c hc
      · refine Bool.eq_false_iff.2 fun he => ?_
        have hpad := hall c hc
        simp only [endsAuthority, isSlash, Bool.true_and, Bool.or_eq_true, beq_iff_eq] at he
        rcases he with ((rfl | rfl) | rfl) | rfl <;> exact absurd hpad (by decide)
    obtain ⟨hd, hk, hr⟩ := takeWhile_part hs part (List.append_ne_nil_of_right_ne_nil _ hpads) ht
    obtain ⟨fault, hfault⟩ := locate_append hl hpads hall
    refine ⟨fault, ?_⟩
    have split : splitScheme (significant s) =
        some (scheme, slashes ++ (authority ++ pads) ++ tail) := by
      rw [hsig, whole, hn]
      simp
    rw [parse_eq_parseAuthority split hp hf, hd, parseAuthority_eq hp, hk, hfault]
    rfl

theorem exists_isFront {s : String} {u : Url} (h : parse s = .ok u) (hu : u.isWeb = true) :
    ∃ front located tail, IsFront front located ∧ IsTail tail ∧
      significant s = front ++ tail ∧ u = located.withTail true tail := by
  obtain ⟨scheme, rest, hs, hp, hf, ha⟩ := exists_of_parse h hu
  obtain ⟨name, hname, others⟩ := exists_of_splitScheme hs
  let after := rest.dropWhile (isSlash true)
  let tail := after.dropWhile (!endsAuthority true ·)
  rw [parseAuthority_eq hp] at ha
  cases hl : locate scheme (after.takeWhile (!endsAuthority true ·)) with
  | error fault =>
    rw [hl] at ha
    cases ha
  | ok located =>
    rw [hl] at ha
    cases ha
    have slashes : ∀ c ∈ rest.takeWhile (isSlash true), isSlash true c = true :=
      fun c hc => List.mem_takeWhile_imp hc
    have part : ∀ c ∈ after.takeWhile (!endsAuthority true ·), endsAuthority true c = false :=
      fun c hc => by simpa using List.mem_takeWhile_imp hc
    have ends : IsTail tail := by
      intro c hc
      have hd := List.head?_dropWhile_not (!endsAuthority true ·) after
      rw [Option.mem_def.1 hc] at hd
      simpa using hd
    refine ⟨_, located, tail, isFront_of_locate others hp hf slashes part hl hu, ends, ?_, rfl⟩
    rw [hname, List.append_assoc, List.cons_append, List.append_assoc,
      List.takeWhile_append_dropWhile, List.takeWhile_append_dropWhile]

end MultiCluster.Url
