import Mathlib.Data.List.Induction
import MultiCluster.Proofs.Surroundings
import MultiCluster.Sweep
import MultiCluster.Sweep.Activity

/-! Passes side by side under one mark. The mark tells that some pass has begun and none has ended
since, which is not the same as a pass in progress once passes overlap or are dropped. -/
namespace MultiCluster.Sweep

/-- Some pass has begun, and none has come to its end since. -/
def HasBegun (past : List PassEvent) : Prop :=
  ∃ before behind, past = before ++ .start :: behind ∧ .finish ∉ behind

/-- No pass has begun while another one was in progress. -/
def IsApart (past : List PassEvent) : Prop :=
  ∀ before behind, past = before ++ .start :: behind → (Activity.idle.afterAll before).passes = 0

theorem hasBegun_concat {past : List PassEvent} {e : PassEvent} :
    HasBegun (past ++ [e]) ↔ e = .start ∨ e ≠ .finish ∧ HasBegun past := by
  constructor
  · rintro ⟨before, behind, he, hn⟩
    obtain rfl | ⟨behind, f, rfl⟩ := List.eq_nil_or_concat behind
    · exact .inl (by simpa using (List.append_inj' he rfl).2)
    · rw [List.concat_eq_append, ← List.cons_append, ← List.append_assoc] at he
      obtain ⟨rfl, hf⟩ := List.append_inj' he rfl
      obtain rfl : e = f := by simpa using hf
      simp only [List.concat_eq_append, List.mem_append, List.mem_singleton, not_or] at hn
      exact .inr ⟨Ne.symm hn.2, before, behind, rfl, hn.1⟩
  · rintro (rfl | ⟨he, before, behind, rfl, hn⟩)
    · exact ⟨past, [], rfl, List.not_mem_nil⟩
    · exact ⟨before, behind ++ [e], by simp, by simpa [hn] using Ne.symm he⟩

theorem IsApart.prefix {past : List PassEvent} {e : PassEvent} (h : IsApart (past ++ [e])) :
    IsApart past := by
  rintro before behind rfl
  exact h before (behind ++ [e]) (by simp)

theorem Activity.afterAll_concat {past : List PassEvent} {e : PassEvent} :
    idle.afterAll (past ++ [e]) = (idle.afterAll past).after e := by
  rw [afterAll, List.foldl_append]
  rfl

/-- The mark follows what began or ended last; passes that are dropped leave no trace. -/
theorem Activity.isMarked_afterAll {past : List PassEvent} :
    (idle.afterAll past).isMarked = true ↔ HasBegun past := by
  induction past using List.reverseRecOn with
  | nil => simp [HasBegun, afterAll, idle]
  | append_singleton past e ih =>
    rw [afterAll_concat, hasBegun_concat]
    cases e with
    | start => simp [after]
    | finish => simp [after]
    | drop => simpa [after] using ih

/-- Passes of one plan side by side: the mark that they share, what has happened to passes so far, and
the passes in progress. -/
structure Duty where
  activity : Activity
  past : List PassEvent
  passes : List (Flow Outcome (Except Error Report))

namespace Duty

/-- A pass begins, whoever makes it; one in progress has a question answered somehow; or one is dropped
wherever it is. -/
inductive Event where
  | start
  | answer (pass position : Nat) (reply : (c : Call) → c.Reply)
  | drop (pass : Nat)

def idle : Duty := ⟨.idle, [], []⟩

/-- Something happens to a pass, and these are in progress now. -/
def turned (x : Duty) (e : PassEvent) (passes : List (Flow Outcome (Except Error Report))) : Duty :=
  ⟨x.activity.after e, x.past ++ [e], passes⟩

/-- What comes of one event. A pass that comes to its report, or to the error that it fails with, is
over. -/
def step (p : Plan) (x : Duty) : Event → Duty
  | .start => x.turned .start (x.passes ++ [pass p])
  | .answer i position reply =>
    match x.passes[i]? with
    | none => x
    | some f =>
      let g := (f.step reply position : Id _)
      if g.value?.isSome then x.turned .finish (x.passes.eraseIdx i)
      else { x with passes := x.passes.set i g }
  | .drop i => if i < x.passes.length then x.turned .drop (x.passes.eraseIdx i) else x

/-- What comes of events one after the other. -/
def run (p : Plan) (x : Duty) (events : List Event) : Duty := events.foldl (step p) x

/-- All that one event can do: a pass begins, is answered and goes on, ends or is dropped, or nothing
happens. -/
theorem step_cases (p : Plan) (x : Duty) (e : Event) :
    x.step p e = x ∨ x.step p e = x.turned .start (x.passes ++ [pass p]) ∨
      (∃ i g, g.value? = none ∧ x.step p e = { x with passes := x.passes.set i g }) ∨
      ∃ i f, i < x.passes.length ∧ (f = .finish ∨ f = .drop) ∧
        x.step p e = x.turned f (x.passes.eraseIdx i) := by
  cases e with
  | start => exact .inr (.inl rfl)
  | answer i position reply =>
    cases hi : x.passes[i]? with
    | none => exact .inl (by simp only [step, hi])
    | some f =>
      simp only [step, hi]
      split
      · have hl := (List.getElem?_eq_some_iff.1 hi).1
        exact .inr (.inr (.inr ⟨i, .finish, hl, .inl rfl, rfl⟩))
      · exact .inr (.inr (.inl ⟨i, _, Option.not_isSome_iff_eq_none.1 ‹_›, rfl⟩))
  | drop i =>
    simp only [step]
    split
    · exact .inr (.inr (.inr ⟨i, .drop, ‹_›, .inr rfl, rfl⟩))
    · exact .inl rfl

/-- The mark and the passes in progress go with what has happened to passes. -/
structure Follows (x : Duty) : Prop where
  activity : x.activity = Activity.idle.afterAll x.past
  going : ∀ f ∈ x.passes, f.value? = none
  count : x.activity.passes = x.passes.length
  undropped : .drop ∉ x.past → x.activity.isMarked = true → x.passes ≠ []
  apart : IsApart x.past → x.passes.length ≤ 1 ∧ (x.passes ≠ [] → x.activity.isMarked = true)

theorem follows_idle : idle.Follows := by
  constructor <;> simp [idle, Activity.idle, Activity.afterAll]

variable {p : Plan} {x : Duty}

theorem Follows.start (h : x.Follows) : (x.turned .start (x.passes ++ [pass p])).Follows where
  activity := by rw [turned, Activity.afterAll_concat, h.activity]
  going f hf := by
    obtain hf | hf := List.mem_append.1 hf
    · exact h.going f hf
    · rw [List.mem_singleton.1 hf]
      rfl
  count := by
    rw [turned, List.length_append, ← h.count]
    rfl
  undropped _ _ := by simp [turned]
  apart ha := by
    have hp : x.passes = [] := by
      rw [← List.length_eq_zero_iff, ← h.count, h.activity]
      exact ha x.past [] rfl
    exact ⟨by simp [turned, hp], fun _ => rfl⟩

theorem Follows.answer (h : x.Follows) (i : Nat) {g : Flow Outcome (Except Error Report)}
    (hg : g.value? = none) : Follows { x with passes := x.passes.set i g } where
  activity := h.activity
  going f hf := by
    obtain hf | rfl := List.mem_or_eq_of_mem_set hf
    · exact h.going f hf
    · exact hg
  count := by rw [List.length_set, h.count]
  undropped := by simpa using h.undropped
  apart := by simpa using h.apart

/-- A pass that ends takes the mark with it; one that is dropped does not. -/
theorem Follows.over (h : x.Follows) {i : Nat} (hi : i < x.passes.length) {e : PassEvent}
    (he : e = .finish ∨ e = .drop) : (x.turned e (x.passes.eraseIdx i)).Follows where
  activity := by rw [turned, Activity.afterAll_concat, h.activity]
  going f hf := h.going f (List.mem_of_mem_eraseIdx hf)
  count := by
    rw [turned, List.length_eraseIdx_of_lt hi, ← h.count]
    obtain rfl | rfl := he <;> rfl
  undropped hd hm := by
    obtain rfl | rfl := he
    · cases hm
    · exact absurd (by simp [turned]) hd
  apart ha := by
    have hl := (h.apart ha.prefix).1
    have hn : x.passes.eraseIdx i = [] := by
      rw [← List.length_eq_zero_iff, List.length_eraseIdx_of_lt hi]
      omega
    exact ⟨by simp [turned, hn], fun hp => absurd hn hp⟩

theorem Follows.step (h : x.Follows) (e : Event) : (x.step p e).Follows := by
  obtain hs | hs | ⟨i, g, hg, hs⟩ | ⟨i, f, hi, hf, hs⟩ := step_cases p x e <;> rw [hs]
  · exact h
  · exact h.start
  · exact h.answer i hg
  · exact h.over hi hf

theorem Follows.run (h : x.Follows) (events : List Event) : (x.run p events).Follows := by
  induction events generalizing x with
  | nil => exact h
  | cons e events ih => exact ih (h.step e)

/-- What the mark tells of the passes. -/
structure IsMarked (x : Duty) : Prop where
  /-- It is set just when some pass has begun and none has come to its end since. -/
  begun : x.activity.isMarked = true ↔ HasBegun x.past
  /-- When it is set though no pass is in progress, one was dropped. -/
  dropped : x.activity.isMarked = true → x.passes = [] → .drop ∈ x.past
  /-- When it is not set though a pass is in progress, one has begun during another. -/
  overlapped : x.activity.isMarked = false → x.passes ≠ [] → ¬ IsApart x.past
  /-- It is right as long as passes come one after the other and none is dropped. -/
  right : .drop ∉ x.past → IsApart x.past → (x.activity.isMarked = true ↔ x.passes ≠ [])
  /-- What is in progress has not come to its end. -/
  going : ∀ f ∈ x.passes, f.value? = none

/-- However passes begin, are answered, end, fail and are dropped: the mark tells whether the last
that began or ended has begun. -/
theorem run_marked (p : Plan) (events : List Event) : (idle.run p events).IsMarked := by
  have h : (idle.run p events).Follows := follows_idle.run events
  generalize idle.run p events = x at h
  have hm : x.activity.isMarked = true ↔ HasBegun x.past := by
    rw [h.activity]
    exact Activity.isMarked_afterAll
  refine ⟨hm, fun hs hn => ?_, fun hs hp ha => ?_, fun hd ha => ?_, h.going⟩
  · by_contra hd
    exact h.undropped hd hs hn
  · rw [(h.apart ha).2 hp] at hs
    cases hs
  · exact ⟨h.undropped hd, (h.apart ha).2⟩

/-- The mark does not tell whether a pass is in progress: it stays when a pass is dropped, and goes when
the first of two passes ends. -/
theorem not_marked_where_going :
    (¬ ∀ p events, (idle.run p events).activity.text = "Running" →
        (idle.run p events).passes ≠ []) ∧
      ¬ ∀ p events, (idle.run p events).passes ≠ [] →
        (idle.run p events).activity.text = "Running" := by
  let p : Plan := ⟨.all, 500, 4⟩
  constructor
  · intro h
    exact h p [.start, .drop 0] rfl rfl
  · intro h
    -- The registry cannot be read, which ends the first of the two passes.
    have hr : "Idle" = "Running" :=
      h p [.start, .start, .answer 0 0 Turn.plain.outside] (List.cons_ne_nil _ _)
    exact absurd hr (by decide)

end Duty
end MultiCluster.Sweep
