import MultiCluster.Proofs.Flow.Course
import MultiCluster.Proofs.Service.Look
import MultiCluster.Proofs.Url.Front
import MultiCluster.Service.Query
import MultiCluster.Service.Register

/-! Registering a cluster: every way in which an attempt can go, and what it leaves in the store. -/
namespace MultiCluster.Service

namespace Submission

/-- Whether a submission can be registered: it has a name and a kubeconfig, and if it has an address
of monitoring, this is one of the web. -/
structure IsValid (x : Submission) : Prop where
  named : Text.trim x.displayName ≠ ""
  configured : Text.trim x.kubeconfig ≠ ""
  web : Text.trim x.prometheusUrl ≠ "" → ∃ u, Url.parse (Text.trim x.prometheusUrl) = .ok u ∧
    (u.scheme = "http" ∨ u.scheme = "https")

/-- What is registered of a submission: name and address without the white space around them, and
the kubeconfig as it was sent. -/
def registration (x : Submission) : Registration where
  kubeconfig := x.kubeconfig
  displayName := Text.trim x.displayName
  prometheusUrl := Text.trim x.prometheusUrl

/-- The record of a submission under an id, made at a time. Nobody has looked at the cluster yet. -/
def record (x : Submission) (id now : String) : Member where
  id
  displayName := Text.trim x.displayName
  kubeconfig := x.kubeconfig
  prometheusUrl := Text.trim x.prometheusUrl
  status := ⟨0, 0, 0, 0, .unknown⟩
  createdAt := some now

private theorem checkEndpoint_eq_ok_iff (endpoint : String) : checkEndpoint endpoint = .ok () ↔
    (endpoint ≠ "" → ∃ u, Url.parse endpoint = .ok u ∧
      (u.scheme = "http" ∨ u.scheme = "https")) := by
  unfold checkEndpoint
  by_cases he : endpoint = ""
  · simp [he]
  simp only [String.isEmpty_iff, he, if_false, ne_eq, not_false_eq_true, true_imp_iff]
  cases Url.parse endpoint with
  | error fault => simp
  | ok u =>
    by_cases hw : u.isWeb = true
    · simpa [hw] using Url.isWeb_iff.1 hw
    · simpa [hw] using mt Url.isWeb_iff.2 hw

private theorem checkEndpoint_error {endpoint : String} {e : Error}
    (h : checkEndpoint endpoint = .error e) : ∃ reason, e = .invalidInput reason := by
  unfold checkEndpoint at h
  split at h
  · cases h
  · split at h
    · exact ⟨_, (Except.error.inj h).symm⟩
    · split at h
      · cases h
      · exact ⟨_, (Except.error.inj h).symm⟩

/-- Just the valid submissions pass, with what is registered of them. -/
theorem validate_eq_ok_iff {x : Submission} {g : Registration} :
    x.validate = .ok g ↔ x.IsValid ∧ g = x.registration := by
  constructor
  · intro h
    simp only [validate, String.isEmpty_iff] at h
    split at h
    · cases h
    · next named =>
      split at h
      · cases h
      · next configured =>
        cases he : checkEndpoint (Text.trim x.prometheusUrl) with
        | error e =>
          rw [he] at h
          cases h
        | ok u =>
          rw [he] at h
          exact ⟨⟨named, configured, (checkEndpoint_eq_ok_iff _).1 he⟩, (Except.ok.inj h).symm⟩
  · rintro ⟨⟨named, configured, web⟩, rfl⟩
    simp only [validate, String.isEmpty_iff, named, configured, if_false,
      (checkEndpoint_eq_ok_iff _).2 web]
    rfl

/-- A submission that does not pass is refused as invalid. -/
theorem validate_error {x : Submission} {e : Error} (h : x.validate = .error e) :
    ∃ reason, e = .invalidInput reason := by
  simp only [validate] at h
  split at h
  · exact ⟨_, (Except.error.inj h).symm⟩
  · split at h
    · exact ⟨_, (Except.error.inj h).symm⟩
    · cases he : checkEndpoint (Text.trim x.prometheusUrl) with
      | error f =>
        rw [he] at h
        obtain rfl := Except.error.inj h
        exact checkEndpoint_error he
      | ok u =>
        rw [he] at h
        cases h

end Submission

/-- How listing the nodes of the cluster under an id ends: its record was not given, there was no
client for it, or its nodes were asked for. -/
inductive RollCall where
  | lost (error : Error)
  | unreachable (found : Member) (error : Error)
  | called (found : Member) (client : Client) (answer : Except Error (List Node))

namespace RollCall

def exchanges (id : String) : RollCall → List Exchange
  | lost e => [⟨.registry (.get id), .error e⟩]
  | unreachable m e => [⟨.registry (.get id), .ok m⟩, ⟨.connect m, .error e⟩]
  | called m c answer =>
    [⟨.registry (.get id), .ok m⟩, ⟨.connect m, .ok c⟩, ⟨.nodes c, answer⟩]

/-- The nodes, or the error that was met first. -/
def nodes : RollCall → Except Error (List Node)
  | lost e => .error e
  | unreachable _ e => .error e
  | called _ _ answer => answer

end RollCall

/-- Whether an exchange is a call to register a cluster. -/
def isAttempt : Exchange → Bool
  | ⟨.registry (.create ..), _⟩ => true
  | _ => false

/-- Calls to register under one id after the other: each but the last is refused because the id is
in use, with the reason given, and a new id is asked for. -/
def attempts (g : Registration) :
    String → List (String × String) → Except Error Member → List Exchange
  | id, [], answer => [⟨.registry (.create id g), answer⟩]
  | id, (reason, next) :: taken, answer =>
    ⟨.registry (.create id g), .error (.conflict reason)⟩ :: ⟨.freshId, next⟩ ::
      attempts g next taken answer

/-- The id that was tried last. -/
def lastTried : String → List (String × String) → String
  | first, [] => first
  | _, (_, next) :: taken => lastTried next taken

/-- What is said before anything is stored: a client is wanted for the record that is to be. -/
def Submission.trial (x : Submission) (first now : String) (connected : Except Error Client) :
    List Exchange :=
  [⟨.freshId, first⟩, ⟨.clock, now⟩, ⟨.connect (x.record first now), connected⟩]

/-- How far a valid submission gets: there was no client, storing it failed, or it was stored and
its nodes were asked for. -/
inductive Enrollment where
  | unreachable (first now : String) (error : Error)
  | unstored (first now : String) (client : Client) (taken : List (String × String))
      (error : Error)
  | stored (first now : String) (client : Client) (taken : List (String × String))
      (member : Member) (roll : RollCall)

namespace Enrollment

/-- All that is said. -/
def exchanges (x : Submission) : Enrollment → List Exchange
  | unreachable first now e => x.trial first now (.error e)
  | unstored first now c taken e =>
    x.trial first now (.ok c) ++ attempts x.registration first taken (.error e)
  | stored first now c taken m roll =>
    x.trial first now (.ok c) ++ attempts x.registration first taken (.ok m) ++
      roll.exchanges m.id

/-- What is answered: the first error that was not an id in use, or the cluster with its nodes. -/
def result : Enrollment → Except Error Detail
  | unreachable _ _ e => .error e
  | unstored _ _ _ _ e => .error e
  | stored _ _ _ _ m roll => roll.nodes.map (⟨m, ·⟩)

/-- Storing ends with the first answer that is not an id in use, or when no retries are left. -/
def IsPatient : Enrollment → Prop
  | unreachable .. => True
  | unstored _ _ _ taken e =>
    taken.length ≤ retries ∧ (taken.length < retries → ∀ reason, e ≠ .conflict reason)
  | stored _ _ _ taken .. => taken.length ≤ retries

end Enrollment

private theorem store_zero (g : Registration) (id : String) :
    (store g 0 id).run = .ask (.registry (.create id g)) .done := rfl

private theorem store_succ (g : Registration) (left : Nat) (id : String) :
    (store g (left + 1) id).run = .ask (.registry (.create id g)) fun
      | .error (.conflict _) => .ask .freshId fun next => (store g left next).run
      | answer => .done answer := by
  apply congrArg (Job.ask (.registry (.create id g)))
  funext r
  rcases r with (_ | _ | _ | _ | _ | _ | _ | _ | _ | _) | m <;> rfl

/-- Storing takes the course of some attempts. -/
private theorem says_store {g : Registration} {left : Nat} {id : String} {es : List Exchange}
    {answer : Except Error Member} (h : (store g left id).run.Says es (.done answer)) :
    ∃ taken, es = attempts g id taken answer ∧ taken.length ≤ left ∧
      (taken.length < left → ∀ reason, answer ≠ .error (.conflict reason)) := by
  induction left generalizing id es with
  | zero =>
    rw [store_zero] at h
    obtain ⟨r, fs, rfl, hd⟩ := Job.says_ask_done_iff.1 h
    obtain ⟨rfl, hr⟩ := Job.says_done_iff.1 hd
    obtain rfl := Job.done.inj hr
    exact ⟨[], rfl, Nat.le_refl 0, fun h => absurd h (Nat.lt_irrefl 0)⟩
  | succ left ih =>
    rw [store_succ] at h
    obtain ⟨r, fs, rfl, hd⟩ := Job.says_ask_done_iff.1 h
    by_cases hc : ∃ reason, r = .error (.conflict reason)
    · obtain ⟨reason, rfl⟩ := hc
      obtain ⟨next, gs, rfl, hn⟩ := Job.says_ask_done_iff.1 hd
      obtain ⟨taken, rfl, hl, hs⟩ := ih hn
      refine ⟨(reason, next) :: taken, rfl, Nat.succ_le_succ hl, fun h => hs ?_⟩
      exact Nat.lt_of_succ_lt_succ h
    · have hd : Job.Says (.done r) fs (.done answer) := by
        rcases r with (_ | _ | _ | _ | _ | reason | _ | _ | _ | _) | m
        case error.conflict => exact absurd ⟨reason, rfl⟩ hc
        all_goals exact hd
      obtain ⟨rfl, hr⟩ := Job.says_done_iff.1 hd
      obtain rfl := Job.done.inj hr
      refine ⟨[], rfl, Nat.zero_le _, fun _ reason hr => hc ⟨reason, hr⟩⟩

private theorem nodes_run (id : String) : (nodes id).run = .ask (.registry (.get id)) fun
    | .error e => .done (.error e)
    | .ok m => .ask (.connect m) fun
      | .error e => .done (.error e)
      | .ok c => .ask (.nodes c) .done := by
  apply congrArg (Job.ask (.registry (.get id)))
  funext r
  cases r with
  | error e => rfl
  | ok m =>
    apply congrArg (Job.ask (.connect m))
    funext r
    cases r <;> rfl

/-- Listing the nodes of the cluster under an id takes the course of some roll-call. -/
theorem says_nodes {id : String} {es : List Exchange} {answer : Except Error (List Node)}
    (h : (nodes id).run.Says es (.done answer)) :
    ∃ roll : RollCall, es = roll.exchanges id ∧ answer = roll.nodes := by
  rw [nodes_run] at h
  obtain ⟨given, fs, rfl, hg⟩ := Job.says_ask_done_iff.1 h
  cases given with
  | error e =>
    obtain ⟨rfl, hr⟩ := Job.says_done_iff.1 hg
    exact ⟨.lost e, rfl, Job.done.inj hr⟩
  | ok m =>
    obtain ⟨connected, gs, rfl, hc⟩ := Job.says_ask_done_iff.1 hg
    cases connected with
    | error e =>
      obtain ⟨rfl, hr⟩ := Job.says_done_iff.1 hc
      exact ⟨.unreachable m e, rfl, Job.done.inj hr⟩
    | ok c =>
      obtain ⟨listed, hs, rfl, hl⟩ := Job.says_ask_done_iff.1 hc
      obtain ⟨rfl, hr⟩ := Job.says_done_iff.1 hl
      exact ⟨.called m c listed, rfl, Job.done.inj hr⟩

private theorem detail_run (m : Member) :
    (do let c ← Action.client m.id; return ⟨m, ← Action.nodes c⟩ : Action Detail).run =
      (nodes m.id).run.bind fun answer => .done (answer.map (⟨m, ·⟩)) := by
  apply congrArg (Job.ask (.registry (.get m.id)))
  funext r
  cases r with
  | error e => rfl
  | ok found =>
    apply congrArg (Job.ask (.connect found))
    funext r
    cases r with
    | error e => rfl
    | ok c =>
      apply congrArg (Job.ask (.nodes c))
      funext r
      cases r <;> rfl

/-- What is done with a valid submission. -/
def enroll (x : Submission) : Job (Except Error Detail) :=
  .ask .freshId fun first => .ask .clock fun now => .ask (.connect (x.record first now)) fun
    | .error e => .done (.error e)
    | .ok _ => (store x.registration retries first).run.bind fun
      | .error e => .done (.error e)
      | .ok m => (nodes m.id).run.bind fun answer => .done (answer.map (⟨m, ·⟩))

theorem register_run (x : Submission) : (register x).run = match x.validate with
    | .error e => .done (.error e)
    | .ok _ => enroll x := by
  cases h : x.validate with
  | error e =>
    simp only [register, h]
    rfl
  | ok g =>
    obtain ⟨-, rfl⟩ := Submission.validate_eq_ok_iff.1 h
    simp only [register, h]
    apply congrArg (Job.ask .freshId)
    funext first
    apply congrArg (Job.ask .clock)
    funext now
    apply congrArg (Job.ask (.connect (x.record first now)))
    funext r
    cases r with
    | error e => rfl
    | ok c =>
      apply congrArg (Job.bind (store x.registration retries first).run)
      funext r
      cases r with
      | error e => rfl
      | ok m => exact detail_run m

/-- A question of an enrollment: nothing else is registered, and nothing is changed. -/
def IsEnrolling (g : Registration) : Call → Prop
  | .registry (.create _ h) => h = g
  | .registry (.get _) => True
  | .registry _ => False
  | _ => True

private theorem store_asks (g : Registration) (left : Nat) (id : String) :
    (store g left id).run.Asks (IsEnrolling g) := by
  induction left generalizing id with
  | zero =>
    rw [store_zero]
    exact ⟨rfl, fun _ => trivial⟩
  | succ left ih =>
    rw [store_succ]
    refine ⟨rfl, fun r => ?_⟩
    rcases r with (_ | _ | _ | _ | _ | _ | _ | _ | _ | _) | m
    case error.conflict => exact ⟨trivial, fun next => ih next⟩
    all_goals trivial

private theorem nodes_asks (g : Registration) (id : String) :
    (nodes id).run.Asks (IsEnrolling g) := by
  rw [nodes_run]
  refine ⟨trivial, fun r => ?_⟩
  cases r with
  | error e => trivial
  | ok m =>
    refine ⟨trivial, fun r => ?_⟩
    cases r with
    | error e => trivial
    | ok c => exact ⟨trivial, fun _ => trivial⟩

theorem enroll_asks (x : Submission) : (enroll x).Asks (IsEnrolling x.registration) := by
  refine ⟨trivial, fun first => ⟨trivial, fun now => ⟨trivial, fun connected => ?_⟩⟩⟩
  cases connected with
  | error e => trivial
  | ok c =>
    refine (store_asks x.registration retries first).bind fun answer => ?_
    cases answer with
    | error e => trivial
    | ok m => exact (nodes_asks x.registration m.id).bind fun _ => trivial

/-- What is said when a cluster is to be registered: nothing if the submission is not valid, and
otherwise what some enrollment says. -/
theorem says_register {x : Submission} {es : List Exchange} {result : Except Error Detail}
    (h : (register x).run.Says es (.done result)) :
    (∃ e, x.validate = .error e ∧ es = [] ∧ result = .error e) ∨
      ∃ n : Enrollment, x.IsValid ∧ n.IsPatient ∧ es = n.exchanges x ∧ result = n.result := by
  rw [register_run] at h
  cases hv : x.validate with
  | error e =>
    rw [hv] at h
    obtain ⟨rfl, hr⟩ := Job.says_done_iff.1 h
    exact .inl ⟨e, rfl, rfl, Job.done.inj hr⟩
  | ok g =>
    rw [hv] at h
    obtain ⟨valid, -⟩ := Submission.validate_eq_ok_iff.1 hv
    obtain ⟨first, fs, rfl, hf⟩ := Job.says_ask_done_iff.1 h
    obtain ⟨now, gs, rfl, hg⟩ := Job.says_ask_done_iff.1 hf
    obtain ⟨connected, hs, rfl, hc⟩ := Job.says_ask_done_iff.1 hg
    cases connected with
    | error e =>
      obtain ⟨rfl, hr⟩ := Job.says_done_iff.1 hc
      exact .inr ⟨.unreachable first now e, valid, trivial, rfl, Job.done.inj hr⟩
    | ok c =>
      obtain ⟨ks, ns, answer, rfl, hst, hn⟩ := Job.says_bind_done_iff.1 hc
      obtain ⟨taken, rfl, hl, hp⟩ := says_store hst
      cases answer with
      | error e =>
        obtain ⟨rfl, hr⟩ := Job.says_done_iff.1 hn
        have patient : Enrollment.IsPatient (.unstored first now c taken e) :=
          ⟨hl, fun hlt reason he => hp hlt reason (congrArg Except.error he)⟩
        refine .inr ⟨.unstored first now c taken e, valid, patient, ?_, Job.done.inj hr⟩
        simp [Enrollment.exchanges, Submission.trial]
      | ok m =>
        obtain ⟨ls, ds, listed, rfl, hl', hd⟩ := Job.says_bind_done_iff.1 hn
        obtain ⟨roll, rfl, rfl⟩ := says_nodes hl'
        obtain ⟨rfl, hr⟩ := Job.says_done_iff.1 hd
        refine .inr ⟨.stored first now c taken m roll, valid, hl, ?_, Job.done.inj hr⟩
        simp [Enrollment.exchanges, Submission.trial]

end MultiCluster.Service

namespace MultiCluster

/-- The answer to a question where of the registry only this is known: a cluster is registered by
the store, or the call fails and stores nothing. Anything may be answered to any other question,
also to what is recorded of a cluster. -/
def Turn.loosely (t : Turn) : (c : Call) → StateM Store c.Reply
  | .registry (.create id g) => t.answer (.registry (.create id g))
  | c => return t.outside c

/-- Answers the questions one after the other, each with its own move. -/
def Surroundings.loosely (moves : Nat → Turn) (c : Call) : StateM Surroundings c.Reply := fun w =>
  let (r, store) := (moves w.past.length).loosely c w.store
  (r, ⟨store, w.past ++ [⟨c, r⟩]⟩)

/-- Exchanges that lead from one store to another, from some number of moves on. -/
inductive Store.Takes (moves : Nat → Turn) : Nat → Store → List Exchange → Store → Prop where
  | nothing (k : Nat) (s : Store) : Takes moves k s [] s
  | more {k : Nat} {c : Call} {r : c.Reply} {es : List Exchange} {s t u : Store}
      (answer : (moves k).loosely c s = (r, t)) (rest : Takes moves (k + 1) t es u) :
      Takes moves k s (⟨c, r⟩ :: es) u

namespace Store.Takes

variable {moves : Nat → Turn} {k : Nat} {es : List Exchange} {s u : Store}

theorem nil (h : s.Takes moves k [] u) : u = s := by
  cases h
  rfl

/-- Nothing but the registration of a cluster has an effect. -/
theorem skip {c : Call} {r : c.Reply} (h : s.Takes moves k (⟨c, r⟩ :: es) u)
    (hc : ∀ id g, c ≠ .registry (.create id g)) : s.Takes moves (k + 1) es u := by
  rcases h with _ | ⟨answer, rest⟩
  have hs : (moves k).loosely c s = ((moves k).outside c, s) := by
    cases c with
    | registry k =>
      cases k with
      | create id g => exact absurd rfl (hc id g)
      | _ => rfl
    | _ => rfl
  obtain ⟨-, rfl⟩ := Prod.mk.inj (hs.symm.trans answer)
  exact rest

/-- A cluster is registered with the time of the move, or nothing is. -/
theorem create {id : String} {g : Registration} {r : Except Error Member}
    (h : s.Takes moves k (⟨.registry (.create id g), r⟩ :: es) u) :
    (r = .ok (.new id g (some (moves k).now)) ∧ s.get? id = none ∧
      (s.put (.new id g (some (moves k).now))).Takes moves (k + 1) es u) ∨
      (∃ f, r = .error f) ∧ s.Takes moves (k + 1) es u := by
  rcases h with _ | ⟨answer, rest⟩
  obtain ⟨rfl, hs, rfl⟩ | ⟨hf, rfl⟩ := Store.created_of_answer answer
  · exact .inl ⟨rfl, hs, rest⟩
  · exact .inr ⟨hf, rest⟩

/-- Each exchange is had with its own move. -/
theorem drop {before : List Exchange} (h : s.Takes moves k (before ++ es) u) :
    ∃ t : Store, t.Takes moves (k + before.length) es u := by
  induction before generalizing k s with
  | nil => exact ⟨s, h⟩
  | cons e before ih =>
    rcases h with _ | ⟨answer, rest⟩
    obtain ⟨t, ht⟩ := ih rest
    rw [Nat.add_assoc, Nat.add_comm 1] at ht
    exact ⟨t, ht⟩

/-- A record has the time of the move that it was stored with. -/
theorem time {before after : List Exchange} {id : String} {g : Registration} {m : Member}
    (h : s.Takes moves k (before ++ ⟨.registry (.create id g), .ok m⟩ :: after) u) :
    m.createdAt = some (moves (k + before.length)).now := by
  obtain ⟨t, ht⟩ := h.drop
  obtain ⟨hm, -⟩ | ⟨⟨f, hf⟩, -⟩ := ht.create
  · rw [Except.ok.inj hm, Member.new]
  · cases hf

end Store.Takes

/-- A program that is answered to its end has said something, and its surroundings kept it. -/
theorem Job.run_loosely {α : Type} (j : Job α) (moves : Nat → Turn) (w : Surroundings) :
    ∃ es, (j.run (Surroundings.loosely moves) w).2.past = w.past ++ es ∧
      j.Says es (.done (j.run (Surroundings.loosely moves) w).1) ∧
      w.store.Takes moves w.past.length es (j.run (Surroundings.loosely moves) w).2.store := by
  induction j generalizing w with
  | done a => exact ⟨[], (List.append_nil w.past).symm, .nothing _, .nothing _ _⟩
  | ask c next ih =>
    obtain ⟨es, hp, hs, ht⟩ := ih (Surroundings.loosely moves c w).1
      (Surroundings.loosely moves c w).2
    have hl : (Surroundings.loosely moves c w).2.past.length = w.past.length + 1 :=
      List.length_append
    refine ⟨⟨c, (Surroundings.loosely moves c w).1⟩ :: es, ?_, .ask _ hs, .more rfl (hl ▸ ht)⟩
    exact hp.trans (List.append_assoc w.past _ es)

end MultiCluster

namespace MultiCluster.Service

variable {x : Submission} {moves : Nat → Turn} {k : Nat} {s u : Store}

/-- Storing leaves the store alone unless the last attempt succeeds, under an id not in use. -/
theorem takes_attempts {g : Registration} {first : String} {taken : List (String × String)}
    {answer : Except Error Member} {more : List Exchange}
    (h : s.Takes moves k (attempts g first taken answer ++ more) u) :
    ∃ k', (∃ now, answer = .ok (.new (lastTried first taken) g (some now)) ∧
      s.get? (lastTried first taken) = none ∧
      (s.put (.new (lastTried first taken) g (some now))).Takes moves k' more u) ∨
      (∃ f, answer = .error f) ∧ s.Takes moves k' more u := by
  induction taken generalizing first k with
  | nil =>
    obtain created | failed := h.create
    · exact ⟨k + 1, .inl ⟨_, created⟩⟩
    · exact ⟨k + 1, .inr failed⟩
  | cons t taken ih =>
    obtain ⟨hr, -⟩ | ⟨-, hn⟩ := h.create
    · cases hr
    · exact ih (hn.skip fun _ _ => Call.noConfusion)

theorem takes_rollCall {id : String} {roll : RollCall}
    (h : s.Takes moves k (roll.exchanges id) u) : u = s := by
  cases roll with
  | lost e => exact (h.skip (by simp)).nil
  | unreachable m e => exact ((h.skip (by simp)).skip (by simp)).nil
  | called m c answer => exact (((h.skip (by simp)).skip (by simp)).skip (by simp)).nil

private theorem takes_trial {first now : String} {connected : Except Error Client}
    {more : List Exchange} (h : s.Takes moves k (x.trial first now connected ++ more) u) :
    s.Takes moves (k + 3) more u :=
  ((h.skip (by simp)).skip (by simp)).skip (by simp)

/-- What an enrollment leaves of a store. -/
theorem takes_enrollment {n : Enrollment} (h : s.Takes moves k (n.exchanges x) u) :
    match n with
    | .unreachable .. => u = s
    | .unstored .. => u = s
    | .stored first _ _ taken m _ =>
      (∃ now, m = x.record (lastTried first taken) now) ∧ s.Gains m u := by
  cases n with
  | unreachable first now e =>
    rw [Enrollment.exchanges, ← List.append_nil (x.trial first now _)] at h
    exact (takes_trial h).nil
  | unstored first now c taken e =>
    have h := takes_trial h
    rw [← List.append_nil (attempts x.registration first taken _)] at h
    obtain ⟨k', ⟨now, hr, -⟩ | ⟨-, hn⟩⟩ := takes_attempts h
    · cases hr
    · exact hn.nil
  | stored first now c taken m roll =>
    rw [Enrollment.exchanges, List.append_assoc] at h
    obtain ⟨k', ⟨now, hr, hs, hn⟩ | ⟨⟨f, hf⟩, -⟩⟩ := takes_attempts (takes_trial h)
    · obtain rfl := Except.ok.inj hr
      obtain rfl := takes_rollCall hn
      exact ⟨⟨now, rfl⟩, Store.gains_put hs⟩
    · cases hf

theorem mem_attempts {g g' : Registration} {first id : String} {taken : List (String × String)}
    {answer reply : Except Error Member}
    (h : ⟨.registry (.create id g'), reply⟩ ∈ attempts g first taken answer) : g' = g := by
  induction taken generalizing first with
  | nil =>
    obtain ⟨he, -⟩ := Exchange.mk.inj (List.mem_singleton.1 h)
    exact (Registry.Call.create.inj (Call.registry.inj he)).2
  | cons t taken ih =>
    rw [attempts, List.mem_cons, List.mem_cons] at h
    obtain h | h | h := h
    · exact (Registry.Call.create.inj (Call.registry.inj (Exchange.mk.inj h).1)).2
    · cases (Exchange.mk.inj h).1
    · exact ih h

theorem countP_attempts (g : Registration) (first : String) (taken : List (String × String))
    (answer : Except Error Member) :
    (attempts g first taken answer).countP isAttempt = taken.length + 1 := by
  induction taken generalizing first with
  | nil => rfl
  | cons t taken ih =>
    rw [attempts, List.countP_cons_of_pos rfl, List.countP_cons_of_neg Bool.false_ne_true, ih]
    rfl

theorem countP_rollCall (id : String) (roll : RollCall) :
    (roll.exchanges id).countP isAttempt = 0 := by
  cases roll <;> rfl

theorem countP_trial (x : Submission) (first now : String) (connected : Except Error Client) :
    (x.trial first now connected).countP isAttempt = 0 := rfl

/-- No more than five calls to register are made. -/
theorem countP_enrollment (x : Submission) {n : Enrollment} (h : n.IsPatient) :
    (n.exchanges x).countP isAttempt ≤ 5 := by
  cases n with
  | unreachable first now e => simp [Enrollment.exchanges, countP_trial]
  | unstored first now c taken e =>
    have hl : taken.length ≤ 4 := h.1
    have hn : (Enrollment.exchanges x (.unstored first now c taken e)).countP isAttempt =
        taken.length + 1 := by
      simp [Enrollment.exchanges, countP_trial, countP_attempts]
    omega
  | stored first now c taken m roll =>
    have hl : taken.length ≤ 4 := h
    have hn : (Enrollment.exchanges x (.stored first now c taken m roll)).countP isAttempt =
        taken.length + 1 := by
      simp [Enrollment.exchanges, countP_trial, countP_attempts, countP_rollCall]
    omega

/-- A call to register is made for the submission only, after a client was had for it. -/
theorem before_attempt {g : Registration} {n : Enrollment} {before after : List Exchange}
    {id : String} {answer : Except Error Member}
    (h : n.exchanges x = before ++ ⟨.registry (.create id g), answer⟩ :: after) :
    g = x.registration ∧ ∃ first now c, x.trial first now (.ok c) <+: before := by
  have key (first now : String) (connected : Except Error Client) (rest : List Exchange)
      (he : x.trial first now connected ++ rest =
        before ++ ⟨.registry (.create id g), answer⟩ :: after) :
      x.trial first now connected <+: before ∧ ⟨.registry (.create id g), answer⟩ ∈ rest := by
    rcases before with _ | ⟨a, _ | ⟨b, _ | ⟨c, before⟩⟩⟩
    · cases (Exchange.mk.inj (List.cons.inj he).1).1
    · cases (Exchange.mk.inj (List.cons.inj (List.cons.inj he).2).1).1
    · cases (Exchange.mk.inj (List.cons.inj (List.cons.inj (List.cons.inj he).2).2).1).1
    · simp only [Submission.trial, List.cons_append, List.nil_append, List.cons.injEq] at he ⊢
      obtain ⟨rfl, rfl, rfl, rfl⟩ := he
      exact ⟨⟨before, rfl⟩, by simp⟩
  cases n with
  | unreachable first now e =>
    exact absurd (key first now _ [] (by rwa [List.append_nil])).2 (by simp)
  | unstored first now c taken e =>
    obtain ⟨hp, hm⟩ := key first now _ _ h
    exact ⟨mem_attempts hm, first, now, c, hp⟩
  | stored first now c taken m roll =>
    rw [Enrollment.exchanges, List.append_assoc] at h
    obtain ⟨hp, hm⟩ := key first now _ _ h
    refine ⟨?_, first, now, c, hp⟩
    obtain hm | hm := List.mem_append.1 hm
    · exact mem_attempts hm
    · have hz := List.countP_eq_zero.1 (countP_rollCall m.id roll) _ hm
      exact absurd rfl hz

/-- What comes of a submission: what was said, the result, and the store that is left. -/
structure Registered (x : Submission) (moves : Nat → Turn) (s : Store) (said : List Exchange)
    (result : Except Error Detail) (t : Store) : Prop where
  /-- The store is as it was, or has exactly one more member. -/
  left : t = s ∨ ∃ m, s.Gains m t
  /-- A submission that is not valid leads to no question. -/
  invalid : ¬ x.IsValid → ∃ reason, x.validate = .error (.invalidInput reason) ∧ said = [] ∧
    result = .error (.invalidInput reason) ∧ t = s
  /-- A valid one takes the course of some enrollment. One that is stored stays stored, whatever
  comes of its nodes, and all others leave the store alone. -/
  valid : x.IsValid → ∃ n : Enrollment, n.IsPatient ∧ said = n.exchanges x ∧
    result = n.result ∧ match n with
      | .unreachable .. => t = s
      | .unstored .. => t = s
      | .stored first _ _ taken m _ =>
        (∃ now, m = x.record (lastTried first taken) now) ∧ s.Gains m t
  /-- A record has the time of the move that it was stored with. -/
  time : ∀ before id g m after, said = before ++ ⟨.registry (.create id g), .ok m⟩ :: after →
    m.createdAt = some (moves before.length).now
  /-- Registering is not tried before the submission was found valid and a client was had. -/
  order : ∀ before id g answer after,
    said = before ++ ⟨.registry (.create id g), answer⟩ :: after → x.IsValid ∧
      g = x.registration ∧ ∃ first now c, x.trial first now (.ok c) <+: before
  tries : said.countP isAttempt ≤ 5

/-- Whatever is answered, a submission comes to a result, and takes one of the courses there are. -/
theorem register_registered (x : Submission) (s : Store) (moves : Nat → Turn) :
    ∃ said result t, (register x).run.run (Surroundings.loosely moves) ⟨s, []⟩ =
      (result, ⟨t, said⟩) ∧ Registered x moves s said result t := by
  obtain ⟨es, hp, hs, ht⟩ := (register x).run.run_loosely moves ⟨s, []⟩
  generalize (register x).run.run (Surroundings.loosely moves) ⟨s, []⟩ = out at hp hs ht ⊢
  obtain ⟨result, t, said⟩ := out
  obtain rfl : said = es := hp
  have ht : s.Takes moves 0 said t := ht
  have time : ∀ before id g m after,
      said = before ++ ⟨.registry (.create id g), .ok m⟩ :: after →
        m.createdAt = some (moves before.length).now := by
    rintro before id g m after rfl
    rw [ht.time, Nat.zero_add]
  refine ⟨said, result, t, rfl, ?_⟩
  obtain ⟨e, hv, rfl, rfl⟩ | ⟨n, valid, hn, rfl, rfl⟩ := says_register hs
  · have invalid : ¬ x.IsValid := by
      intro h
      cases hv.symm.trans (Submission.validate_eq_ok_iff.2 ⟨h, rfl⟩)
    constructor
    case left => exact .inl ht.nil
    case invalid =>
      obtain ⟨reason, rfl⟩ := Submission.validate_error hv
      exact fun _ => ⟨reason, hv, rfl, rfl, ht.nil⟩
    case valid => exact fun h => absurd h invalid
    case time => exact time
    case order =>
      intro before id g answer after h
      simp at h
    case tries => simp
  · have hl := takes_enrollment ht
    constructor
    case left =>
      cases n with
      | unreachable first now e => exact .inl hl
      | unstored first now c taken e => exact .inl hl
      | stored first now c taken m roll => exact .inr ⟨m, hl.2⟩
    case invalid => exact fun h => absurd valid h
    case valid =>
      intro _
      refine ⟨n, hn, rfl, rfl, ?_⟩
      cases n <;> exact hl
    case time => exact time
    case order =>
      intro before id g answer after h
      obtain ⟨rfl, hf⟩ := before_attempt h
      exact ⟨valid, rfl, hf⟩
    case tries => exact countP_enrollment x hn

end MultiCluster.Service
