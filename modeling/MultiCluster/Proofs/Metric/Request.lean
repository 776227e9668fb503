import MultiCluster.Metric.Request
import MultiCluster.Proofs.Json.Fields
import MultiCluster.Proofs.Text.Numeral
import MultiCluster.Proofs.Text.Octets
import MultiCluster.Proofs.Text.Split

/-! Which parameters make a request for metrics, and which request they make. -/
namespace MultiCluster

theorem Timestamp.hasDate_iff {seconds : Int} :
    hasDate seconds = true ↔ -8334601228800 ≤ seconds ∧ seconds ≤ 8210266876799 := by
  have first : dayNumber minYear 1 1 * secondsPerDay = -8334601228800 := by decide
  have behind : (dayNumber maxYear 12 31 + 1) * secondsPerDay = 8210266876800 := by decide
  rw [hasDate, first, behind, Bool.and_eq_true, decide_eq_true_iff, decide_eq_true_iff]
  omega

namespace Metric

open Text
open Quantity (Digits Sign)

/-- A list of names: what stands between the commas, where there is anything but white space. -/
def ListsNames (text : String) (names : List String) : Prop :=
  ∃ cores, List.Forall₂ IsCore (text.toList.splitOn ',') cores ∧
    names = (cores.filter (· ≠ [])).map String.ofList

/-- A text with seconds since 1970 in it, in a year that has dates. -/
structure WritesMoment (text : String) (seconds : Int) : Prop where
  written : ∃ (sign : Sign) (ds : Digits), ds ≠ [] ∧
    IsCore text.toList (sign.chars ++ ds.chars) ∧ seconds = sign.factor * ds.value
  first : -8334601228800 ≤ seconds
  last : seconds ≤ 8210266876799

/-- What the digits of a step count. -/
inductive StepUnit
  | bare
  | second
  | minute
  | hour

namespace StepUnit

def chars : StepUnit → List Char
  | bare => []
  | second => ['s']
  | minute => ['m']
  | hour => ['h']

def seconds : StepUnit → Nat
  | bare | second => 1
  | minute => 60
  | hour => 3600

theorem seconds_pos (unit : StepUnit) : 0 < unit.seconds := by
  cases unit <;> decide

end StepUnit

/-- A text with a step in it, whose seconds are a word. -/
structure WritesStep (text : String) (seconds : Nat) : Prop where
  written : ∃ (sign : Sign) (ds : Digits) (unit : StepUnit), sign ≠ .minus ∧ ds ≠ [] ∧
    IsCore text.toList (sign.chars ++ ds.chars ++ unit.chars) ∧ seconds = ds.value * unit.seconds
  fits : seconds < 2 ^ 64

/-- What the parameters of an address must be to make a request. -/
structure Request.IsRead (metrics start stop step : Option String) (node : String) (r : Request) :
    Prop where
  names : ListsNames (metrics.getD "") r.names
  someName : r.names ≠ []
  start : ∃ text, start = some text ∧ WritesMoment text r.start
  stop : ∃ text, stop = some text ∧ WritesMoment text r.stop
  inOrder : r.start ≤ r.stop
  step : ∃ text seconds, step = some text ∧ WritesStep text seconds ∧ seconds ≠ 0 ∧
    r.step = .ofSeconds seconds
  node : r.node = some node

/-- What may go wrong only because of the request. -/
def IsJudgement {α : Type} (r : Except Error α) : Prop :=
  ∀ e, r = .error e → ∃ reason, e = .invalidInput reason

namespace IsJudgement

variable {α β : Type}

theorem ok (a : α) : IsJudgement (.ok a) := by
  rintro e ⟨⟩

theorem invalidInput (reason : String) : IsJudgement (.error (.invalidInput reason) : Except _ α) := by
  rintro e ⟨⟩
  exact ⟨reason, rfl⟩

theorem bind {x : Except Error α} {f : α → Except Error β} (hx : IsJudgement x)
    (hf : ∀ a, IsJudgement (f a)) : IsJudgement (x >>= f) := by
  cases x with
  | error e =>
    rintro _ ⟨⟩
    exact hx e rfl
  | ok a => exact hf a

end IsJudgement

namespace Request

theorem readNames_eq_iff {text : String} {names : List String} :
    readNames text = names ↔ ListsNames text names := by
  have core : IsCore = fun cs core => trimChars cs = core := by
    funext cs core
    exact propext trimChars_eq_iff.symm
  have cores (cs : List (List Char)) : List.Forall₂ IsCore (text.toList.splitOn ',') cs ↔
      (text.toList.splitOn ',').map trimChars = cs := by
    rw [core, ← List.forall₂_map_left_iff, List.forall₂_eq_eq_eq]
  have kept (cs : List Char) : (!cs.isEmpty) = decide (cs ≠ []) := by cases cs <;> rfl
  simp only [readNames, ListsNames, cores, exists_eq_left', splitAll_eq_splitOn, kept]
  exact eq_comm

theorem readMoment_eq_ok_iff {field : String} {p : Option String} {seconds : Int} :
    readMoment field p = .ok seconds ↔ ∃ text, p = some text ∧ WritesMoment text seconds := by
  cases p with
  | none => simp [readMoment]
  | some text =>
    have read : readMoment field (some text) = .ok seconds ↔
        readSigned 64 (trimChars text.toList) = some seconds ∧
          Timestamp.hasDate seconds = true := by
      rw [← Option.filter_eq_some_iff, readMoment]
      split <;> simp [*]
    rw [read, Timestamp.hasDate_iff, readSigned_eq_some_iff]
    simp only [trimChars_eq_iff, Option.some_inj, exists_eq_left']
    constructor
    · rintro ⟨⟨sign, ds, he, hc, hv, -⟩, first, last⟩
      exact ⟨⟨sign, ds, he, hc, hv⟩, first, last⟩
    · rintro ⟨⟨sign, ds, he, hc, hv⟩, first, last⟩
      have least : Word.least 64 = -9223372036854775808 := by decide
      have greatest : Word.greatest 64 = 9223372036854775807 := by decide
      exact ⟨⟨sign, ds, he, hc, hv, by omega, by omega⟩, first, last⟩

theorem exists_unit {c : Char} {n : Nat} (h : unitSeconds? c = some n) :
    ∃ unit : StepUnit, unit.chars = [c] ∧ unit.seconds = n := by
  unfold unitSeconds? at h
  split at h
  case h_1 => exact ⟨.second, rfl, Option.some_inj.1 h⟩
  case h_2 => exact ⟨.minute, rfl, Option.some_inj.1 h⟩
  case h_3 => exact ⟨.hour, rfl, Option.some_inj.1 h⟩
  case h_4 => cases h

/-- What is cut off at the end of a step is its unit. -/
theorem exists_splitStep (cs : List Char) :
    ∃ front unit, cs = front ++ StepUnit.chars unit ∧ splitStep cs = (front, unit.seconds) := by
  rw [splitStep]
  cases h : cs.getLast?.bind unitSeconds? with
  | none => exact ⟨cs, .bare, (List.append_nil cs).symm, rfl⟩
  | some n =>
    obtain ⟨c, hc, hn⟩ := Option.bind_eq_some_iff.1 h
    obtain ⟨unit, hu, rfl⟩ := exists_unit hn
    exact ⟨cs.dropLast, unit, by rw [hu, List.dropLast_append_getLast? c hc], rfl⟩

/-- The unit of a step is cut off, and none of its digits. -/
theorem splitStep_append (front : List Char) {ds : Digits} (h : ds ≠ []) (unit : StepUnit) :
    splitStep (front ++ ds.chars ++ unit.chars) = (front ++ ds.chars, unit.seconds) := by
  cases unit with
  | bare =>
    have plain : ∀ d : Fin 10, unitSeconds? (Nat.digitChar d) = none := by decide
    obtain ⟨ds, d, rfl⟩ := (List.eq_nil_or_concat' ds).resolve_left h
    simp [splitStep, StepUnit.chars, StepUnit.seconds, Digits.chars, plain d, ← List.append_assoc]
  | second | minute | hour =>
    simp [splitStep, StepUnit.chars, unitSeconds?, StepUnit.seconds]

theorem readStep_eq_ok_iff {p : Option String} {step : Span} :
    readStep p = .ok step ↔
      ∃ text seconds, p = some text ∧ WritesStep text seconds ∧ step = .ofSeconds seconds := by
  cases p with
  | none => simp [readStep]
  | some text =>
    have read (digits : List Char) (unit : Nat)
        (hs : splitStep (trimChars text.toList) = (digits, unit)) :
        readStep (some text) = .ok step ↔ ∃ n, readUnsigned 64 digits = some n ∧
          n * unit < Word.limit 64 ∧ step = .ofSeconds (n * unit) := by
      rw [readStep, hs]
      dsimp only
      cases readUnsigned 64 digits with
      | none => simp
      | some n =>
        by_cases fits : n * unit < Word.limit 64 <;> simp [Word.unsigned?, fits, eq_comm]
    constructor
    · obtain ⟨front, unit, hf, hs⟩ := exists_splitStep (trimChars text.toList)
      rw [read front unit.seconds hs]
      rintro ⟨n, hn, fits, rfl⟩
      obtain ⟨sign, ds, hsign, he, rfl, rfl, -⟩ := readUnsigned_eq_some_iff.1 hn
      exact ⟨text, _, rfl, ⟨⟨sign, ds, unit, hsign, he, trimChars_eq_iff.1 hf, rfl⟩, fits⟩, rfl⟩
    · rintro ⟨_, _, ⟨⟩, ⟨⟨sign, ds, unit, hsign, he, hc, rfl⟩, fits⟩, rfl⟩
      have hs := splitStep_append sign.chars he unit
      rw [← trimChars_eq_iff.2 hc] at hs
      rw [read _ _ hs]
      refine ⟨ds.value, readUnsigned_eq_some_iff.2 ⟨sign, ds, hsign, he, rfl, rfl, ?_⟩, fits, rfl⟩
      exact (Nat.le_mul_of_pos_right _ unit.seconds_pos).trans_lt fits

theorem validate_eq_ok_iff {r : Request} :
    r.validate = .ok () ↔ r.names ≠ [] ∧ r.start ≤ r.stop ∧ r.step.isZero = false := by
  rw [validate]
  split_ifs <;> simp_all

/-- What is read is not refused when it is looked at again. -/
theorem IsRead.valid {metrics start stop step : Option String} {node : String} {r : Request}
    (h : IsRead metrics start stop step node r) : r.validate = .ok () := by
  obtain ⟨text, seconds, -, -, h0, hs⟩ := h.step
  have hz : r.step.isZero = false := by simpa [hs, Span.isZero, Span.ofSeconds] using h0
  exact validate_eq_ok_iff.2 ⟨h.someName, h.inOrder, hz⟩

theorem ofParameters_eq_ok_iff {metrics start stop step : Option String} {node : String}
    {r : Request} :
    ofParameters metrics start stop step node = .ok r ↔ IsRead metrics start stop step node r := by
  unfold ofParameters
  constructor
  · intro h
    obtain ⟨a, ha, h⟩ := bind_eq_ok_iff.1 h
    obtain ⟨b, hb, h⟩ := bind_eq_ok_iff.1 h
    obtain ⟨c, hc, h⟩ := bind_eq_ok_iff.1 h
    obtain ⟨⟨⟩, hv, ⟨⟩⟩ := bind_eq_ok_iff.1 h
    obtain ⟨someName, inOrder, hz⟩ := validate_eq_ok_iff.1 hv
    obtain ⟨text, seconds, ht, hw, rfl⟩ := readStep_eq_ok_iff.1 hc
    refine ⟨readNames_eq_iff.1 rfl, someName, readMoment_eq_ok_iff.1 ha,
      readMoment_eq_ok_iff.1 hb, inOrder, ⟨text, seconds, ht, hw, ?_, rfl⟩, rfl⟩
    rintro rfl
    cases hz
  · intro h
    obtain ⟨text, seconds, ht, hw, -, hs⟩ := h.step
    have made : (⟨readNames (metrics.getD ""), r.start, r.stop, r.step, some node⟩ : Request) = r := by
      rw [readNames_eq_iff.2 h.names, ← h.node]
    refine bind_eq_ok_iff.2 ⟨_, readMoment_eq_ok_iff.2 h.start, ?_⟩
    refine bind_eq_ok_iff.2 ⟨_, readMoment_eq_ok_iff.2 h.stop, ?_⟩
    refine bind_eq_ok_iff.2 ⟨_, readStep_eq_ok_iff.2 ⟨text, seconds, ht, hw, hs⟩, ?_⟩
    rw [made]
    exact bind_eq_ok_iff.2 ⟨(), h.valid, rfl⟩

example : ofParameters (some "up, ,node_load1") (some "-10") (some " 20 ") (some "+5m") "edge" =
    .ok ⟨["up", "node_load1"], -10, 20, .ofSeconds 300, some "edge"⟩ := by rfl

theorem isJudgement_readMoment (field : String) (p : Option String) :
    IsJudgement (readMoment field p) := by
  unfold readMoment
  split
  · exact .invalidInput _
  · split
    · exact .ok _
    · exact .invalidInput _

theorem isJudgement_readStep (p : Option String) : IsJudgement (readStep p) := by
  unfold readStep
  split
  · exact .invalidInput _
  · dsimp only
    split
    · exact .ok _
    · exact .invalidInput _

theorem isJudgement_validate (r : Request) : IsJudgement r.validate := by
  rw [validate]
  split_ifs
  · exact .invalidInput _
  · exact .invalidInput _
  · exact .invalidInput _
  · exact .ok _

theorem isJudgement_ofParameters (metrics start stop step : Option String) (node : String) :
    IsJudgement (ofParameters metrics start stop step node) := by
  refine (isJudgement_readMoment "start" start).bind fun a => ?_
  refine (isJudgement_readMoment "end" stop).bind fun b => ?_
  refine (isJudgement_readStep step).bind fun c => ?_
  exact (isJudgement_validate _).bind fun _ => .ok _

/-- Parameters that make no request are refused. -/
theorem exists_refusal {metrics start stop step : Option String} {node : String}
    (h : ∀ r, ¬ IsRead metrics start stop step node r) :
    ∃ reason, ofParameters metrics start stop step node = .error (.invalidInput reason) := by
  have judged := isJudgement_ofParameters metrics start stop step node
  cases hr : ofParameters metrics start stop step node with
  | ok r => exact absurd (ofParameters_eq_ok_iff.1 hr) (h r)
  | error e =>
    obtain ⟨reason, rfl⟩ := judged e hr
    exact ⟨reason, rfl⟩

/-- The step as it is cut in front of the octets of its last character. There is nothing if the cut
is within a character. -/
def cutStep? (cs : List Char) : Option (List Char × Nat) :=
  match (offsetsFrom 0 cs).getLast? with
  | none => some (cs, 1)
  | some (offset, c) =>
    match unitSeconds? c with
    | some seconds => (textBefore? offset cs).map (·, seconds)
    | none => some (cs, 1)

theorem cutStep?_eq (cs : List Char) : cutStep? cs = some (splitStep cs) := by
  cases cs using List.reverseRecOn with
  | nil => rfl
  | append_singleton front c =>
    rw [cutStep?, offsetsFrom_append, offsetsFrom, offsetsFrom, List.getLast?_concat, splitStep,
      List.getLast?_concat, List.dropLast_concat, Option.bind_some]
    dsimp only
    cases unitSeconds? c with
    | none => rfl
    | some seconds =>
      rw [Nat.zero_add, textBefore?_append]
      rfl

end Request
end Metric
end MultiCluster
