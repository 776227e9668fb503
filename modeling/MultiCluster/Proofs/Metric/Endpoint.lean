import MultiCluster.Metric.Endpoint
import MultiCluster.Proofs.Url.Below

/-! Where a monitoring backend is asked. The requests are written as text behind the address of its
endpoint, and go to places below it only if the address can go on so. -/
namespace MultiCluster

section

open Text

theorem isUnreserved_of_isDigit {c : Char} (h : c.isDigit = true) : isUnreserved c = true := by
  simp [isUnreserved, Char.isAlphanum, h]

theorem isUnreserved_of_mem_repr {n : Nat} {c : Char} (h : c ∈ n.repr.toList) :
    isUnreserved c = true := by
  rw [Nat.toList_repr] at h
  exact isUnreserved_of_isDigit (Nat.isDigit_of_mem_toDigits (by decide) (by decide) h)

theorem isUnreserved_of_mem_toString {i : Int} {c : Char} (h : c ∈ (toString i).toList) :
    isUnreserved c = true := by
  rw [Int.toString_eq_repr] at h
  cases i with
  | ofNat n => exact isUnreserved_of_mem_repr h
  | negSucc n =>
    have shown : (Int.negSucc n).repr.toList = '-' :: n.succ.repr.toList := by
      simp [Int.repr]
    rw [shown, List.mem_cons] at h
    rcases h with rfl | h
    · decide
    · exact isUnreserved_of_mem_repr h

theorem Binary64.isUnreserved_of_mem_positional {n : Nat} {k : Int} {c : Char}
    (h : c ∈ positional n k) : isUnreserved c = true := by
  have digits {c : Char} (hc : c ∈ (toString n).toList) : isUnreserved c = true :=
    isUnreserved_of_mem_repr hc
  have zeros {places : Nat} {c : Char} (hc : c ∈ List.replicate places '0') :
      isUnreserved c = true := by
    rw [List.eq_of_mem_replicate hc]
    decide
  unfold positional at h
  simp only at h
  split at h
  · exact (List.mem_append.1 h).elim digits zeros
  · have padded {places : Nat} {c : Char}
        (hc : c ∈ List.replicate places '0' ++ (toString n).toList) : isUnreserved c = true :=
      (List.mem_append.1 hc).elim zeros digits
    rcases List.mem_append.1 h with h | h
    · exact padded (List.mem_of_mem_take h)
    · rcases List.mem_cons.1 h with rfl | h
      · decide
      · exact padded (List.mem_of_mem_drop h)

theorem Binary64.isUnreserved_of_mem_text {x : Binary64} {c : Char} (h : c ∈ x.text.toList) :
    isUnreserved c = true := by
  have words : ∀ word ∈ ["NaN", "inf", "-inf"], ∀ c ∈ word.toList, isUnreserved c = true := by
    have all : ∀ word ∈ ["NaN", "inf", "-inf"], word.toList.all isUnreserved = true := by decide
    exact fun word hw => List.all_eq_true.1 (all word hw)
  cases x with
  | nan => exact words "NaN" (by simp) c h
  | infinite s => cases s with
    | false => exact words "inf" (by simp) c h
    | true => exact words "-inf" (by simp) c h
  | finite s m e =>
    rw [text, String.toList_ofList] at h
    rcases List.mem_append.1 h with h | h
    · cases s with
      | false => cases h
      | true =>
        rw [List.mem_singleton.1 h]
        decide
    · exact isUnreserved_of_mem_positional h

end

namespace Metric

open Text Url

/-- What a query asks for. -/
def RangeQuery.parameters (q : RangeQuery) : List (String × String) :=
  [("query", q.expression), ("start", toString q.start), ("end", toString q.stop),
    ("step", q.step.toSeconds.text)]

namespace Endpoint

theorem probeAddress_eq (e : Endpoint) :
    e.probeAddress = e.base ++ suffixOf ["-", "healthy"] none := by
  rw [probeAddress]
  congr 1

theorem queryOf_parameters (q : RangeQuery) : queryOf q.parameters =
    "query=" ++ percentEncode q.expression ++ "&start=" ++ toString q.start ++
      "&end=" ++ toString q.stop ++ "&step=" ++ q.step.toSeconds.text := by
  have names : ∀ name ∈ ["query", "start", "end", "step"], percentEncode name = name := by
    decide +kernel
  have moment (i : Int) : percentEncode (toString i) = toString i :=
    percentEncode_eq_self fun _ => isUnreserved_of_mem_toString
  have step : percentEncode q.step.toSeconds.text = q.step.toSeconds.text :=
    percentEncode_eq_self fun _ => Binary64.isUnreserved_of_mem_text
  simp only [queryOf, RangeQuery.parameters, List.map_cons, List.map_nil,
    String.intercalate_cons_cons, String.intercalate_singleton, moment, step,
    names "query" (by simp), names "start" (by simp), names "end" (by simp),
    names "step" (by simp)]
  rw [← String.toList_inj]
  simp only [String.toList_append, List.append_assoc]
  rfl

theorem queryAddress_eq (e : Endpoint) (q : RangeQuery) : e.queryAddress q =
    e.base ++ suffixOf ["api", "v1", "query_range"] (some (queryOf q.parameters)) := by
  have path : pathOf ["api", "v1", "query_range"] = "/api/v1/query_range" := by decide +kernel
  rw [queryAddress, suffixOf, path, queryOf_parameters, ← String.toList_inj]
  simp only [Option.map_some, Option.getD_some, String.toList_append, List.append_assoc]
  rfl

theorem isSuffix_probe : IsSuffix ["-", "healthy"] none where
  filled := List.cons_ne_nil _ _
  name := by decide +kernel
  query := by rintro _ ⟨⟩

theorem isSuffix_query (q : RangeQuery) :
    IsSuffix ["api", "v1", "query_range"] (some (queryOf q.parameters)) where
  filled := List.cons_ne_nil _ _
  name := by decide +kernel
  query := by
    intro raw hr
    obtain rfl := Option.some.inj hr
    exact isQuery_queryOf _

theorem ofAddress_eq_ok_iff {address : String} {e : Endpoint} : ofAddress address = .ok e ↔
    ∃ u, Url.parse address = .ok u ∧ u.isWeb = true ∧ ⟨withoutSlashes address⟩ = e := by
  unfold ofAddress
  cases Url.parse address with
  | error fault =>
    constructor
    · rintro ⟨⟩
    · rintro ⟨_, ⟨⟩, -⟩
  | ok u =>
    by_cases hu : u.isWeb = true
    · simp only [hu, if_true, Except.ok.injEq]
      exact ⟨fun h => ⟨u, rfl, hu, h⟩, by rintro ⟨_, -, -, h⟩; exact h⟩
    · simp only [hu, Bool.false_eq_true, if_false]
      constructor
      · rintro ⟨⟩
      · rintro ⟨_, ⟨⟩, hw, -⟩
        exact absurd hw hu

theorem ofAddress_error {address : String} {error : Error} (h : ofAddress address = .error error) :
    ∃ text, error = .unavailable text := by
  unfold ofAddress at h
  split at h
  · cases h
    exact ⟨_, rfl⟩
  · split at h
    · cases h
    · cases h
      exact ⟨_, rfl⟩

/-- Something that gives each address its answer and keeps a list of those that were fetched. -/
def recording (answer : Url → Option (Nat × List UInt8)) : Fetch (List Url) := fun url fetched =>
  (answer url, fetched ++ [url])

theorem fetch_recording (answer : Url → Option (Nat × List UInt8)) (address : String)
    (fetched : List Url) : ((fetch (recording answer) address).run fetched).2 =
      fetched ++ (Url.parse address).toOption.toList := by
  unfold fetch
  cases Url.parse address with
  | error fault => exact (List.append_nil fetched).symm
  | ok url => rfl

theorem connect_recording {address : String} {e : Endpoint} (h : ofAddress address = .ok e)
    (answer : Url → Option (Nat × List UInt8)) (fetched : List Url) :
    ((connect (recording answer) address).run fetched).2 =
      fetched ++ (Url.parse e.probeAddress).toOption.toList := by
  rw [← fetch_recording answer, connect, h]
  simp only
  rw [StateT.run_bind]
  obtain ⟨_ | ⟨status, body⟩, after⟩ := (fetch (recording answer) e.probeAddress).run fetched
  · rfl
  · change ((if Http.isSuccess status = true then pure (.ok e) else pure (.error _) :
      StateM (List Url) (Except Error Endpoint)).run after).2 = after
    split <;> rfl

theorem query_recording (e : Endpoint) (q : RangeQuery)
    (answer : Url → Option (Nat × List UInt8)) (fetched : List Url) :
    ((e.query (recording answer) q).run fetched).2 =
      fetched ++ (Url.parse (e.queryAddress q)).toOption.toList := by
  rw [← fetch_recording answer, query, StateT.run_bind]
  obtain ⟨_ | ⟨status, body⟩, after⟩ := (fetch (recording answer) (e.queryAddress q)).run fetched
  · rfl
  · rfl

/-- What is fetched with a path and parameters that are appended to an address. -/
structure Leads (address : String) (u : Url) (path : String)
    (parameters : Option (List (String × String))) (fetched : List Url) : Prop where
  /-- Nothing but the server of the address is ever asked. -/
  server : ∀ p ∈ fetched, p.server = u.server
  /-- A tidy address leads to the place below it, with the parameters and nothing else. -/
  tidy : u.IsTidy address → ∃ query, fetched = [u.below path query] ∧
    query.map queryPairs = parameters
  /-- Any other address leads nowhere or to another path. -/
  untidy : ¬ u.IsTidy address → ∀ p ∈ fetched, p.path ≠ withoutSlashes u.path ++ path

theorem leads_of_isSuffix {address : String} {u : Url} (ha : Url.parse address = .ok u)
    (hu : u.isWeb = true) {names : List String} {query : Option String}
    (hs : IsSuffix names query) : Leads address u (pathOf names) (query.map queryPairs)
      (Url.parse (withoutSlashes address ++ suffixOf names query)).toOption.toList := by
  have found {p : Url} (hp : p ∈ (Url.parse
      (withoutSlashes address ++ suffixOf names query)).toOption.toList) :
      Url.parse (withoutSlashes address ++ suffixOf names query) = .ok p :=
    eq_ok_of_toOption (Option.mem_toList.1 hp)
  constructor
  case server => exact fun p hp => server_of_parse ha hu hs (found hp)
  case tidy =>
    intro ht
    exact ⟨query, by rw [parse_of_isTidy ha hu hs ht]; rfl, rfl⟩
  case untidy => exact fun ht p hp path => ht (isTidy_of_path ha hu hs (found hp) path)

/-- What is asked of the backend at an address. -/
structure IsAddressed (address : String) : Prop where
  accepted_iff : (∃ e, ofAddress address = .ok e) ↔
    ∃ u, Url.parse address = .ok u ∧ (u.scheme = "http" ∨ u.scheme = "https")
  /-- What is not accepted is refused without a request. -/
  refused : ∀ error, ofAddress address = .error error →
    (∃ text, error = .unavailable text) ∧
      ∀ (σ : Type) (get : Fetch σ), connect get address = pure (.error error)
  /-- So is what no request can be written for. -/
  unasked : ∀ answer, ((connect (recording answer) address).run []).2 = [] →
    ∃ text, ((connect (recording answer) address).run []).1 = .error (.unavailable text)
  probe : ∀ e u, ofAddress address = .ok e → Url.parse address = .ok u → ∀ answer,
    Leads address u "/-/healthy" none ((connect (recording answer) address).run []).2
  query : ∀ e u, ofAddress address = .ok e → Url.parse address = .ok u → ∀ answer q,
    Leads address u "/api/v1/query_range" (some q.parameters)
      ((e.query (recording answer) q).run []).2

/-- Each request of a backend is on the server of its address, and at its place there just when the
address is tidy. -/
theorem ofAddress_addressed (address : String) : IsAddressed address := by
  constructor
  case accepted_iff =>
    rw [exists_congr fun e => ofAddress_eq_ok_iff]
    constructor
    · rintro ⟨_, u, hu, hw, rfl⟩
      exact ⟨u, hu, isWeb_iff.1 hw⟩
    · rintro ⟨u, hu, hw⟩
      exact ⟨_, u, hu, isWeb_iff.2 hw, rfl⟩
  case refused =>
    intro error h
    refine ⟨ofAddress_error h, fun σ get => ?_⟩
    rw [connect, h]
  case unasked =>
    intro answer hn
    cases h : ofAddress address with
    | error error =>
      obtain ⟨text, rfl⟩ := ofAddress_error h
      refine ⟨text, ?_⟩
      rw [connect, h]
      rfl
    | ok e =>
      rw [connect_recording h, List.nil_append] at hn
      cases hp : Url.parse e.probeAddress with
      | error fault =>
        refine ⟨s!"prometheus at {address} unreachable: {silentText}", ?_⟩
        rw [connect, h]
        simp only
        rw [fetch, hp]
        rfl
      | ok p =>
        rw [hp] at hn
        cases hn
  case probe =>
    intro e u h hu answer
    obtain ⟨v, hv, hw, rfl⟩ := ofAddress_eq_ok_iff.1 h
    cases hv.symm.trans hu
    rw [connect_recording h, probeAddress_eq, List.nil_append]
    exact leads_of_isSuffix hu hw isSuffix_probe
  case query =>
    intro e u h hu answer q
    obtain ⟨v, hv, hw, rfl⟩ := ofAddress_eq_ok_iff.1 h
    cases hv.symm.trans hu
    have leads := leads_of_isSuffix hu hw (isSuffix_query q)
    rw [Option.map_some, queryPairs_queryOf] at leads
    rw [query_recording, queryAddress_eq, List.nil_append]
    exact leads

/-- The slashes at the end of an address are left out, and its path stays in front. -/
theorem ofAddress_addressed_of_prefix :
    let u : Url := ⟨"https", "", none, some (.domain "edge"), some 9090, "/prom//", none, none⟩
    Url.parse "https://edge:9090/prom//" = .ok u ∧ u.IsTidy "https://edge:9090/prom//" ∧
      ∀ answer, ((connect (recording answer) "https://edge:9090/prom//").run []).2 =
        [{ u with path := "/prom/-/healthy" }] := by
  intro u
  have hp : Url.parse "https://edge:9090/prom//" = .ok u := eq_ok_of_toOption (by decide +kernel)
  have ht : u.IsTidy "https://edge:9090/prom//" := by decide +kernel
  refine ⟨hp, ht, fun answer => ?_⟩
  have he := ofAddress_eq_ok_iff.2 ⟨u, hp, rfl, rfl⟩
  obtain ⟨query, hf, hq⟩ := ((ofAddress_addressed _).probe _ u he hp answer).tidy ht
  obtain rfl := Option.map_eq_none_iff.1 hq
  have place : u.below "/-/healthy" none = { u with path := "/prom/-/healthy" } := by decide +kernel
  rw [hf, place]

/-- It is not so that every address that is accepted is asked at a place below it, or nowhere. -/
theorem not_ofAddress_below : ¬ ∀ (address : String) (e : Endpoint) (u : Url),
    ofAddress address = .ok e → Url.parse address = .ok u → ∀ answer,
      ((connect (recording answer) address).run []).2 = [] ∨
        ((connect (recording answer) address).run []).2 = [u.below "/-/healthy" none] := by
  intro h
  let u : Url := ⟨"http", "", none, some (.domain "edge"), some 9090, "/", some "x=1", none⟩
  let p : Url := { u with query := some "x=1/-/healthy" }
  have hu : Url.parse "http://edge:9090?x=1" = .ok u := eq_ok_of_toOption (by decide +kernel)
  have he := ofAddress_eq_ok_iff.2 ⟨u, hu, rfl, rfl⟩
  have hp : (Url.parse (probeAddress ⟨withoutSlashes "http://edge:9090?x=1"⟩)).toOption =
      some p := by decide +kernel
  have hf := h _ _ u he hu fun _ => none
  rw [connect_recording he, hp] at hf
  exact absurd hf (by decide +kernel)

end Endpoint
end Metric
end MultiCluster
