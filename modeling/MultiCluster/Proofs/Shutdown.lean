import Mathlib.Data.List.Count
import MultiCluster.Shutdown

/-! The announcement of the end reaches everybody: nobody hears of it before, and from then on all
listeners and waiters do, whenever they came and whichever handle they came through. -/
namespace MultiCluster.Shutdown

namespace Waiter

variable {c : Channel} {isOpen : Bool} {w : Waiter}

theorem moves_add (m n : Nat) : w.moves c isOpen (m + n) = (w.moves c isOpen m).moves c isOpen n := by
  induction m generalizing w with
  | zero => rw [Nat.zero_add]; rfl
  | succ m ih => rw [Nat.succ_add]; exact ih

theorem move_of_goesOn (h : w.stage = .goesOn) : w.move c isOpen = w := by
  simp only [move, h]

theorem moves_of_goesOn (h : w.stage = .goesOn) (n : Nat) : w.moves c isOpen n = w := by
  induction n with
  | zero => rfl
  | succ n ih => rw [moves, move_of_goesOn h, ih]

/-- Four steps are enough to fall asleep or to go on. -/
theorem stage_rest : (w.rest c isOpen).stage = .sleeps ∨ (w.rest c isOpen).stage = .goesOn := by
  obtain ⟨seen, stage⟩ := w
  cases stage <;> cases hv : c.value <;> cases isOpen <;> by_cases hs : seen = c.version <;>
    simp [rest, moves, move, hv, hs]

/-- A waiter that has seen all there is, and nothing was announced. -/
def IsPatient (w : Waiter) : Prop := w.seen = 0 ∧ w.stage ≠ .goesOn

theorem IsPatient.move (h : w.IsPatient) : (w.move .initial true).IsPatient := by
  obtain ⟨seen, stage⟩ := w
  obtain ⟨rfl, hs⟩ := h
  cases stage <;> simp_all [IsPatient, Waiter.move, Channel.initial]

theorem IsPatient.moves (h : w.IsPatient) (n : Nat) : (w.moves .initial true n).IsPatient := by
  induction n generalizing w with
  | zero => exact h
  | succ n ih => exact ih h.move

end Waiter

/-- The channel once the end is announced. -/
def Channel.loud : Channel := Channel.initial.send true

namespace Waiter

variable {w : Waiter}

/-- A waiter that goes on after as many steps when the end is announced. -/
def GoesOnWithin (n : Nat) (w : Waiter) : Prop := (w.moves .loud true n).stage = .goesOn

theorem GoesOnWithin.mono {m n : Nat} (h : w.GoesOnWithin m) (hn : m ≤ n) : w.GoesOnWithin n := by
  obtain ⟨k, rfl⟩ := Nat.exists_eq_add_of_le hn
  rw [GoesOnWithin, moves_add, moves_of_goesOn h]
  exact h

/-- Every step counts. -/
theorem GoesOnWithin.move {n : Nat} (h : w.GoesOnWithin n) :
    (w.move .loud true).GoesOnWithin (n - 1) := by
  cases n with
  | zero =>
    have hw : w.stage = .goesOn := h
    rwa [move_of_goesOn hw]
  | succ n => exact h

theorem goesOnWithin_of_looks (seen : Nat) : GoesOnWithin 2 ⟨seen, .looks⟩ := rfl

/-- Whoever is patient when the end is announced is awake then, and has two steps to go at most. -/
theorem IsPatient.wake (h : w.IsPatient) : w.wake.GoesOnWithin 2 := by
  obtain ⟨seen, stage⟩ := w
  obtain ⟨rfl, hs⟩ := h
  cases stage
  case looks | asks | sleeps => rfl
  case goesOn => exact absurd rfl hs

end Waiter

namespace State

/-- Whether an event may happen: who takes part is there, and some handle is left. -/
def admits (s : State) : Event → Bool
  | .clone h | .subscribe h | .wait h | .announce h => h < s.handles.length
  | .drop h => h < s.handles.length && 1 < s.handles.length
  | .notice i => i < s.listeners.length
  | .go i => i < s.waiters.length

/-- Whether events may happen one after the other. -/
def admitsAll (s : State) : List Event → Bool
  | [] => true
  | e :: events => s.admits e && (s.after e).admitsAll events

variable {s : State} {e : Event} {later : List Event}

/-- Some handle is left, and no handle has seen anything. -/
structure IsOwned (s : State) : Prop where
  isOpen : s.handles ≠ []
  unseen : ∀ seen ∈ s.handles, seen = 0

theorem IsOwned.isOpen_eq (h : s.IsOwned) : s.isOpen = true := by
  simp [State.isOpen, h.isOpen]

theorem IsOwned.getElem? (h : s.IsOwned) {i : Nat} (hi : i < s.handles.length) :
    s.handles[i]? = some 0 := by
  rw [List.getElem?_eq_getElem hi, h.unseen _ (List.getElem_mem hi)]

theorem IsOwned.after (h : s.IsOwned) (he : s.admits e) : (s.after e).IsOwned := by
  cases e with
  | clone i =>
    have hi : i < s.handles.length := by simpa [admits] using he
    rw [State.after, h.getElem? hi]
    exact ⟨by simp, by simpa [or_imp, forall_and] using h.unseen⟩
  | drop i =>
    have hi : i < s.handles.length ∧ 1 < s.handles.length := by simpa [admits] using he
    refine ⟨fun hn => ?_, fun seen hs => h.unseen seen (List.mem_of_mem_eraseIdx hs)⟩
    have hl : (s.handles.eraseIdx i).length = 0 := congrArg List.length hn
    rw [List.length_eraseIdx_of_lt hi.1] at hl
    omega
  | announce i =>
    rw [State.after, announced]
    split
    · split <;> exact ⟨h.isOpen, h.unseen⟩
    · exact h
  | subscribe _ | wait _ | notice _ | go _ => exact ⟨h.isOpen, h.unseen⟩

/-- A handle that is given up wakes nobody while another one is left. -/
theorem dropped_eq {i : Nat} (h : (s.dropped i).IsOwned) :
    s.dropped i = { s with handles := s.handles.eraseIdx i } := by
  have hn : s.handles.eraseIdx i ≠ [] := h.isOpen
  simp [dropped, hn]

/-- Nothing is announced: nobody has seen anything, and nobody goes on. -/
structure IsQuiet (s : State) : Prop extends s.IsOwned where
  channel : s.channel = .initial
  started : s.started = false
  listeners : ∀ seen ∈ s.listeners, seen = 0
  waiters : ∀ w ∈ s.waiters, w.IsPatient

theorem isQuiet_initial : initial.IsQuiet := by
  constructor
  case toIsOwned => exact ⟨by simp [initial], by simp [initial]⟩
  all_goals simp [initial]

/-- Nothing but an announcement breaks the silence. -/
theorem IsQuiet.after (h : s.IsQuiet) (he : s.admits e) (hn : ∀ i, e ≠ .announce i) :
    (s.after e).IsQuiet := by
  have owned := h.toIsOwned.after he
  cases e with
  | clone i => exact ⟨owned, h.channel, h.started, h.listeners, h.waiters⟩
  | drop i =>
    rw [State.after, dropped_eq owned]
    rw [State.after, dropped_eq owned] at owned
    exact ⟨owned, h.channel, h.started, h.listeners, h.waiters⟩
  | subscribe i =>
    have hi : i < s.handles.length := by simpa [admits] using he
    refine ⟨owned, h.channel, h.started, ?_, h.waiters⟩
    rw [State.after, h.getElem? hi]
    simpa [or_imp, forall_and] using h.listeners
  | wait i =>
    have hi : i < s.handles.length := by simpa [admits] using he
    refine ⟨owned, h.channel, h.started, h.listeners, ?_⟩
    rw [State.after, h.getElem? hi]
    simpa [or_imp, forall_and, Waiter.IsPatient] using h.waiters
  | announce i => exact absurd rfl (hn i)
  | notice i =>
    refine ⟨owned, h.channel, h.started, fun seen hs => ?_, h.waiters⟩
    obtain hs | rfl := List.mem_or_eq_of_mem_set hs
    · exact h.listeners seen hs
    · rw [h.channel]
      rfl
  | go i =>
    refine ⟨owned, h.channel, h.started, h.listeners, fun w hw => ?_⟩
    obtain ⟨j, hj, rfl⟩ := List.mem_iff_getElem.1 hw
    have hp : ∀ hj : j < s.waiters.length, s.waiters[j].IsPatient :=
      fun hj => h.waiters _ (List.getElem_mem hj)
    simp only [State.after, List.getElem_modify, h.channel, h.isOpen_eq]
    split
    · exact (hp _).move
    · exact hp _

/-- The listeners that have taken notice in the course of some events, and only they, have seen the
announcement. -/
structure Notices (later : List Event) (listeners : List Nat) : Prop where
  seen : ∀ i seen, listeners[i]? = some seen → seen = if .notice i ∈ later then 1 else 0
  here : ∀ i, .notice i ∈ later → i < listeners.length

/-- The waiters go on within two steps, counted with those in the course of some events. -/
structure Goes (later : List Event) (waiters : List Waiter) : Prop where
  left : ∀ i (w : Waiter), waiters[i]? = some w → w.GoesOnWithin (2 - later.count (.go i))
  here : ∀ i, .go i ∈ later → i < waiters.length

section

variable {listeners : List Nat} {waiters : List Waiter}

private theorem getElem?_joined {α : Type} {xs : List α} {a x : α} {i : Nat}
    (h : (xs ++ [a])[i]? = some x) : xs[i]? = some x ∨ i = xs.length ∧ x = a := by
  rw [List.getElem?_append] at h
  split at h
  · exact .inl h
  · obtain ⟨hi, rfl⟩ := List.getElem?_eq_some_iff.1 h
    exact .inr ⟨by simp only [List.length_singleton] at hi; omega, by simp⟩

theorem Notices.other (h : Notices later listeners) (he : ∀ i, .notice i ≠ e) :
    Notices (later ++ [e]) listeners := by
  constructor <;> simpa [he] using by first | exact h.seen | exact h.here

theorem Notices.join (h : Notices later listeners) : Notices later (listeners ++ [0]) where
  seen i seen hs := by
    obtain hs | ⟨rfl, rfl⟩ := getElem?_joined hs
    · exact h.seen i seen hs
    · rw [if_neg fun hn => absurd (h.here _ hn) (Nat.lt_irrefl _)]
  here i hi := by simpa using Nat.lt_succ_of_lt (h.here i hi)

theorem Notices.notice (h : Notices later listeners) {i : Nat} (hi : i < listeners.length) :
    Notices (later ++ [.notice i]) (listeners.set i 1) where
  seen j seen hs := by
    by_cases hj : j = i
    · subst hj
      simpa [hi] using hs.symm
    · rw [List.getElem?_set_ne (Ne.symm hj)] at hs
      simpa [hj] using h.seen j seen hs
  here j hj := by
    obtain hj | hj := List.mem_append.1 hj
    · simpa using h.here j hj
    · obtain rfl : j = i := by simpa using hj
      simpa using hi

theorem Goes.other (h : Goes later waiters) (he : ∀ i, .go i ≠ e) : Goes (later ++ [e]) waiters where
  left i w hw := by
    rw [List.count_append, List.count_singleton, if_neg (by simpa using (he i).symm)]
    exact h.left i w hw
  here i hi := h.here i (by simpa [he] using hi)

theorem Goes.join (h : Goes later waiters) (seen : Nat) :
    Goes later (waiters ++ [⟨seen, .looks⟩]) where
  left i w hw := by
    obtain hw | ⟨rfl, rfl⟩ := getElem?_joined hw
    · exact h.left i w hw
    · rw [List.count_eq_zero.2 fun hn => absurd (h.here _ hn) (Nat.lt_irrefl _)]
      exact Waiter.goesOnWithin_of_looks seen
  here i hi := by simpa using Nat.lt_succ_of_lt (h.here i hi)

theorem Goes.go (h : Goes later waiters) {i : Nat} (hi : i < waiters.length) :
    Goes (later ++ [.go i]) (waiters.modify i (·.move .loud true)) where
  left j w hw := by
    rw [List.getElem?_modify] at hw
    obtain ⟨v, hv, rfl⟩ := Option.map_eq_some_iff.1 hw
    have hl := h.left j v hv
    by_cases hj : i = j
    · subst hj
      simpa [Nat.sub_add_eq] using hl.move
    · simpa [hj] using hl
  here j hj := by
    obtain hj | hj := List.mem_append.1 hj
    · simpa using h.here j hj
    · obtain rfl : j = i := by simpa using hj
      simpa using hi

end

/-- The end is announced and `later` has happened since. -/
structure IsLoud (s : State) (later : List Event) : Prop extends s.IsOwned where
  channel : s.channel = .loud
  started : s.started = true
  listeners : Notices later s.listeners
  waiters : Goes later s.waiters

/-- The first announcement reaches all that are there. -/
theorem IsQuiet.announce (h : s.IsQuiet) {i : Nat} (hi : i < s.handles.length) :
    (s.after (.announce i)).IsLoud [] := by
  have he : s.after (.announce i) =
      { s with started := true, channel := .loud, waiters := s.waiters.map .wake } := by
    simp [State.after, hi, announced, h.started, h.channel, Channel.loud]
  rw [he]
  refine ⟨⟨h.isOpen, h.unseen⟩, rfl, rfl, ⟨fun j seen hs => ?_, by simp⟩,
    ⟨fun j w hw => ?_, by simp⟩⟩
  · simpa using h.listeners seen (List.mem_of_getElem? hs)
  · rw [List.getElem?_map] at hw
    obtain ⟨v, hv, rfl⟩ := Option.map_eq_some_iff.1 hw
    exact (h.waiters v (List.mem_of_getElem? hv)).wake

/-- Once the end is announced, announcing it again does nothing at all. -/
theorem IsLoud.announce (h : s.IsLoud later) (i : Nat) : s.after (.announce i) = s := by
  simp [State.after, announced, h.started]

/-- Nothing takes the announcement back, and whoever comes later hears of it too. -/
theorem IsLoud.after (h : s.IsLoud later) (he : s.admits e) :
    (s.after e).IsLoud (later ++ [e]) := by
  have owned := h.toIsOwned.after he
  cases e with
  | clone i =>
    exact ⟨owned, h.channel, h.started, h.listeners.other nofun, h.waiters.other nofun⟩
  | drop i =>
    rw [State.after, dropped_eq owned]
    rw [State.after, dropped_eq owned] at owned
    exact ⟨owned, h.channel, h.started, h.listeners.other nofun, h.waiters.other nofun⟩
  | subscribe i =>
    have hi : i < s.handles.length := by simpa [admits] using he
    refine ⟨owned, h.channel, h.started, ?_, h.waiters.other nofun⟩
    rw [State.after, h.getElem? hi]
    exact h.listeners.join.other nofun
  | wait i =>
    have hi : i < s.handles.length := by simpa [admits] using he
    refine ⟨owned, h.channel, h.started, h.listeners.other nofun, ?_⟩
    rw [State.after, h.getElem? hi]
    exact (h.waiters.join 0).other nofun
  | announce i =>
    rw [h.announce i]
    exact ⟨h.toIsOwned, h.channel, h.started, h.listeners.other nofun, h.waiters.other nofun⟩
  | notice i =>
    have hi : i < s.listeners.length := by simpa [admits] using he
    refine ⟨owned, h.channel, h.started, ?_, h.waiters.other nofun⟩
    rw [State.after, h.channel]
    exact h.listeners.notice hi
  | go i =>
    have hi : i < s.waiters.length := by simpa [admits] using he
    refine ⟨owned, h.channel, h.started, h.listeners.other nofun, ?_⟩
    rw [State.after, h.channel, h.isOpen_eq]
    exact h.waiters.go hi

theorem admitsAll_append {events : List Event} : s.admitsAll (events ++ later) =
    (s.admitsAll events && (s.afterAll events).admitsAll later) := by
  induction events generalizing s with
  | nil => rfl
  | cons e events ih =>
    rw [List.cons_append, admitsAll, ih, admitsAll, Bool.and_assoc]
    rfl

/-- It stays quiet as long as nothing is announced. -/
theorem IsQuiet.afterAll {events : List Event} (h : s.IsQuiet) (he : s.admitsAll events)
    (hn : ∀ i, .announce i ∉ events) : (s.afterAll events).IsQuiet := by
  induction events generalizing s with
  | nil => exact h
  | cons e events ih =>
    obtain ⟨he, hr⟩ := Bool.and_eq_true_iff.1 he
    refine ih (h.after he fun i hi => hn i ?_) hr fun i hi => hn i (List.mem_cons_of_mem e hi)
    exact hi ▸ List.mem_cons_self

/-- It stays loud whatever happens. -/
theorem IsLoud.afterAll {more : List Event} (h : s.IsLoud later) (he : s.admitsAll more) :
    (s.afterAll more).IsLoud (later ++ more) := by
  induction more generalizing s later with
  | nil =>
    rw [List.append_nil]
    exact h
  | cons e more ih =>
    obtain ⟨he, hr⟩ := Bool.and_eq_true_iff.1 he
    have loud := ih (h.after he) hr
    rwa [List.append_assoc] at loud

/-- Nobody has heard of an end: all listeners see that there is none, which is nothing new, and no
waiter goes on, now or when it has come as far as it can. -/
structure IsUnheard (s : State) : Prop where
  views : ∀ v ∈ s.views, v = (false, false)
  waiters : ∀ w ∈ s.waiters, w.stage ≠ .goesOn
  goingOn : ∀ b ∈ s.goingOn, b = false

/-- Everybody has heard of the end, and `later` has happened since: all listeners see it, which is new
to those that have not taken notice since; whoever has taken two steps since goes on, and all do when
they have come as far as they can; and no announcement changes anything any more. -/
structure IsHeard (s : State) (later : List Event) : Prop where
  views : ∀ i < s.listeners.length, s.views[i]? = some (true, !later.contains (.notice i))
  waiters : ∀ i < s.waiters.length, 2 ≤ later.count (.go i) →
    (s.waiters[i]?).map (·.stage) = some .goesOn
  goingOn : ∀ b ∈ s.goingOn, b = true
  again : ∀ i, s.after (.announce i) = s

theorem IsQuiet.isUnheard (h : s.IsQuiet) : s.IsUnheard where
  views v hv := by
    obtain ⟨seen, hs, rfl⟩ := List.mem_map.1 hv
    rw [h.listeners seen hs, h.channel]
    rfl
  waiters w hw := (h.waiters w hw).2
  goingOn b hb := by
    obtain ⟨w, hw, rfl⟩ := List.mem_map.1 hb
    rw [h.channel, h.isOpen_eq]
    exact beq_eq_false_iff_ne.2 ((h.waiters w hw).moves 4).2

theorem IsLoud.isHeard (h : s.IsLoud later) : s.IsHeard later where
  views i hi := by
    have hs := h.listeners.seen i _ (List.getElem?_eq_getElem hi)
    rw [views, List.getElem?_map, List.getElem?_eq_getElem hi, hs, h.channel]
    by_cases hn : .notice i ∈ later <;> simp [hn, Channel.view, Channel.loud, Channel.send,
      Channel.initial]
  waiters i hi hc := by
    have hw := h.waiters.left i _ (List.getElem?_eq_getElem hi)
    rw [Nat.sub_eq_zero_of_le hc] at hw
    rw [List.getElem?_eq_getElem hi]
    exact congrArg some hw
  goingOn b hb := by
    obtain ⟨w, hw, rfl⟩ := List.mem_map.1 hb
    obtain ⟨i, hi⟩ := List.getElem?_of_mem hw
    have hg : w.GoesOnWithin 4 := (h.waiters.left i w hi).mono (by omega)
    rw [h.channel, h.isOpen_eq]
    exact beq_iff_eq.2 hg
  again := h.announce

/-- Whatever happens while some handle is left, and in whatever order: nobody hears of an end before
one is announced, and from the first announcement on everybody does. -/
theorem afterAll_heard {events : List Event} (h : initial.admitsAll events) :
    ((∀ i, .announce i ∉ events) → (initial.afterAll events).IsUnheard) ∧
      ∀ before i later, events = before ++ .announce i :: later → (∀ j, .announce j ∉ before) →
        (initial.afterAll events).IsHeard later := by
  constructor
  · intro hn
    exact (isQuiet_initial.afterAll h hn).isUnheard
  · rintro before i later rfl hn
    rw [admitsAll_append, admitsAll, Bool.and_eq_true, Bool.and_eq_true] at h
    obtain ⟨hb, hi, hl⟩ := h
    have quiet := isQuiet_initial.afterAll hb hn
    have loud := (quiet.announce (by simpa [admits] using hi)).afterAll hl
    rw [afterAll, List.foldl_append]
    exact loud.isHeard

/-- A waiter falls asleep, a copy of the handle announces the end and is the only handle left; another
listener and another waiter come behind that. -/
theorem afterAll_heard_of_copy :
    let before : List Event :=
      [.subscribe 0, .wait 0, .clone 0, .go 0, .go 0, .notice 0, .subscribe 1]
    let later : List Event :=
      [.drop 0, .announce 0, .notice 0, .subscribe 0, .wait 0, .go 0, .go 1, .go 0]
    let s := initial.afterAll (before ++ .announce 1 :: later)
    initial.admitsAll (before ++ .announce 1 :: later) = true ∧ s.IsHeard later ∧
      s.views = [(true, false), (true, true), (true, true)] ∧
      s.waiters.map (·.stage) = [.goesOn, .goesOn] := by
  intro before later s
  have h : initial.admitsAll (before ++ .announce 1 :: later) = true := by decide
  have heard : s.IsHeard later := (afterAll_heard h).2 before 1 later rfl (by simp [before])
  exact ⟨h, heard, by decide, by decide⟩

end State
end MultiCluster.Shutdown
