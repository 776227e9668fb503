import MultiCluster.Proofs.Flow.Asks
import MultiCluster.Proofs.Service.Listing
import MultiCluster.Proofs.Sweep.Pass

/-! Listings and passes that run side by side over one store. They change nothing but totals, all
four at once, and health, and neither of them writes back what it read of the other. -/
namespace MultiCluster

/-- What listings and passes ask of a registry. They patch totals or health, never both. -/
def Call.IsRoutine : Call → Prop
  | .registry (.create ..) => False
  | .registry (.patch _ p) => (∃ t : Totals, p = t.patch) ∨ ∃ h, p = .ofHealth h
  | _ => True

namespace Service

private theorem isRoutine_outside (c : Call) (h : ∀ r, c ≠ .registry r) : c.IsRoutine := by
  cases c with
  | registry r => exact absurd rfl (h r)
  | _ => trivial

theorem inspect_isRoutine (m : Member) : (inspect m).Asks Call.IsRoutine := by
  rw [inspect_eq, summarize_eq, Job.bind_assoc]
  refine (attempt_asks (P := Call.IsRoutine) trivial isRoutine_outside).bind fun seen => ?_
  cases seen with
  | none => exact ⟨.inr ⟨_, rfl⟩, fun _ => trivial⟩
  | some seen => exact ⟨trivial, fun _ => ⟨.inr ⟨_, rfl⟩, fun _ => trivial⟩⟩

theorem listing_isRoutine (limit : Nat) (request : PageRequest) :
    (listing limit request).Asks Call.IsRoutine := by
  refine ⟨trivial, fun r => ?_⟩
  cases r with
  | error e => trivial
  | ok members =>
    refine ⟨fun j hj => ?_, fun _ => trivial⟩
    obtain ⟨m, -, rfl⟩ := List.mem_map.1 hj
    exact inspect_isRoutine m

end Service

namespace Sweep

theorem visit_isRoutine (m : Member) : (visit m).Asks Call.IsRoutine := by
  rw [Service.visit_eq]
  refine (Service.attempt_asks (P := Call.IsRoutine) trivial Service.isRoutine_outside).bind
    fun seen => ?_
  cases seen with
  | none => trivial
  | some seen =>
    refine ⟨.inl ⟨_, rfl⟩, fun r => ?_⟩
    cases r <;> trivial

private theorem visitBatches_isRoutine (limit : Nat) (r : Report) (ms : List (List Member)) :
    (visitBatches limit r ms).Asks Call.IsRoutine := by
  induction ms generalizing r with
  | nil => trivial
  | cons batch ms ih =>
    refine ⟨fun j hj => ?_, fun _ => ih _⟩
    obtain ⟨m, -, rfl⟩ := List.mem_map.1 hj
    exact visit_isRoutine m

theorem pass_isRoutine (p : Plan) : (pass p).Asks Call.IsRoutine := by
  refine ⟨trivial, fun r => ?_⟩
  cases r with
  | error e => trivial
  | ok members => exact visitBatches_isRoutine _ _ _

end Sweep

/-- The totals of a patch that names all four of them and no health. -/
def Status.Patch.asTotals? : Status.Patch → Option Totals
  | ⟨some cpu, some memory, some cpuOf, some memoryOf, none⟩ => some ⟨cpuOf, cpu, memoryOf, memory⟩
  | _ => none

/-- The health of a patch that names nothing else. -/
def Status.Patch.asHealth? : Status.Patch → Option Health
  | ⟨none, none, none, none, h⟩ => h
  | _ => none

/-- The totals that an exchange stored under an id. -/
def Exchange.totals? (id : String) : Exchange → Option Totals
  | ⟨.registry (.patch i p), .ok ()⟩ => if i = id then p.asTotals? else none
  | _ => none

/-- The health that an exchange stored under an id. -/
def Exchange.health? (id : String) : Exchange → Option Health
  | ⟨.registry (.patch i p), .ok ()⟩ => if i = id then p.asHealth? else none
  | _ => none

/-- The totals stored last under an id. -/
def lastTotals? (past : List Exchange) (id : String) : Option Totals :=
  (past.filterMap (·.totals? id)).getLast?

/-- The health stored last under an id. -/
def lastHealth? (past : List Exchange) (id : String) : Option Health :=
  (past.filterMap (·.health? id)).getLast?

/-- A member with other totals, if there are any, and other health, if there is any. -/
def Member.updated (m : Member) (t : Option Totals) (h : Option Health) : Member :=
  { m with status := {
      cpuCapacity := (t.map (·.cpuCapacity)).getD m.status.cpuCapacity
      memoryCapacity := (t.map (·.memoryCapacity)).getD m.status.memoryCapacity
      cpuUsage := (t.map (·.cpuUsage)).getD m.status.cpuUsage
      memoryUsage := (t.map (·.memoryUsage)).getD m.status.memoryUsage
      health := h.getD m.status.health } }

namespace Member

@[simp] theorem id_updated (m : Member) (t : Option Totals) (h : Option Health) :
    (m.updated t h).id = m.id := rfl

theorem updated_none (m : Member) : m.updated none none = m := rfl

theorem updated_updated (m : Member) (t t' : Option Totals) (h h' : Option Health) :
    (m.updated t h).updated t' h' = m.updated (t'.or t) (h'.or h) := by
  cases t' <;> cases h' <;> rfl

/-- A patch of the totals or of the health is one or the other. -/
theorem patchMember_eq_updated (m : Member) (id : String) {p : Status.Patch}
    (hp : (∃ t : Totals, p = t.patch) ∨ ∃ h, p = .ofHealth h) :
    Store.patchMember id p m = m.updated (if id = m.id then p.asTotals? else none)
      (if id = m.id then p.asHealth? else none) := by
  by_cases h : m.id = id
  · rw [if_pos h.symm, if_pos h.symm, ← h, Store.patchMember_self]
    obtain ⟨t, rfl⟩ | ⟨x, rfl⟩ := hp <;> rfl
  · rw [if_neg (Ne.symm h), if_neg (Ne.symm h), Store.patchMember_of_ne p h, updated_none]

end Member

/-- What one exchange of a listing or a pass does to the members of a store. -/
theorem Store.Answers.updated {s s' : Store} {e : Exchange} (h : s.Answers e s')
    (he : e.call.IsRoutine) :
    s'.members = s.members.map fun m => m.updated (e.totals? m.id) (e.health? m.id) := by
  obtain ⟨c, r⟩ := e
  have same (hs : s' = s) (ht : ∀ i, Exchange.totals? i ⟨c, r⟩ = none)
      (hh : ∀ i, Exchange.health? i ⟨c, r⟩ = none) :
      s'.members = s.members.map fun m =>
        m.updated (Exchange.totals? m.id ⟨c, r⟩) (Exchange.health? m.id ⟨c, r⟩) := by
    simp only [hs, ht, hh, Member.updated_none, List.map_id']
  cases c with
  | registry c =>
    cases c with
    | list => exact same h.list.1 (fun _ => rfl) fun _ => rfl
    | get id => exact same h.get.1 (fun _ => rfl) fun _ => rfl
    | create => exact he.elim
    | patch id p =>
      obtain ⟨rfl, rfl⟩ | ⟨⟨f, rfl⟩, rfl⟩ := h.patch
      swap
      · exact same rfl (fun _ => rfl) fun _ => rfl
      exact List.map_congr_left fun m _ => m.patchMember_eq_updated id he
  | _ => exact same (h.outside fun _ => Call.noConfusion) (fun _ => rfl) fun _ => rfl

theorem lastTotals?_concat (past : List Exchange) (e : Exchange) (id : String) :
    lastTotals? (past ++ [e]) id = (e.totals? id).or (lastTotals? past id) := by
  cases h : e.totals? id <;> simp [lastTotals?, h]

theorem lastHealth?_concat (past : List Exchange) (e : Exchange) (id : String) :
    lastHealth? (past ++ [e]) id = (e.health? id).or (lastHealth? past id) := by
  cases h : e.health? id <;> simp [lastHealth?, h]

/-- A listing or a pass, as far as it has come. -/
inductive Work where
  | listing (flow : Flow Summary (Except Error (Page Summary)))
  | pass (flow : Flow Sweep.Outcome (Except Error Sweep.Report))

namespace Work

/-- Lets the surroundings move once. -/
def turn (t : Turn) : Work → StateM Surroundings Work
  | listing f => fun w => ((f.turn t w).map listing id)
  | pass f => fun w => ((f.turn t w).map pass id)

/-- Whether nothing but the questions of listings and passes is to come. -/
def IsRoutine : Work → Prop
  | listing f => f.Asks Call.IsRoutine
  | pass f => f.Asks Call.IsRoutine

theorem IsRoutine.turn {x : Work} (h : x.IsRoutine) (t : Turn) (w : Surroundings) :
    (x.turn t w).1.IsRoutine ∧ ((x.turn t w).2 = w ∨
      ∃ c : Call, c.IsRoutine ∧ (x.turn t w).2 = (t.serve c w).2) := by
  cases x with
  | listing f => exact Flow.Asks.turn h t w
  | pass f => exact Flow.Asks.turn h t w

end Work

/-- What runs side by side, finished or not, and the surroundings they share. -/
structure Traffic where
  works : List Work
  surroundings : Surroundings

namespace Traffic

/-- A listing or a pass begins, or one of those that have begun gets an answer. -/
inductive Event where
  | list (limit : Nat) (request : PageRequest)
  | sweep (plan : Sweep.Plan)
  | answer (work : Nat) (turn : Turn)

/-- Nothing has begun. -/
def idle (s : Store) : Traffic := ⟨[], ⟨s, []⟩⟩

/-- What comes of one event. -/
def step (x : Traffic) : Event → Traffic
  | .list limit request =>
    { x with works := x.works ++ [.listing (Service.listing limit request)] }
  | .sweep plan => { x with works := x.works ++ [.pass (Sweep.pass plan)] }
  | .answer i t =>
    match x.works[i]? with
    | none => x
    | some k => ⟨x.works.set i (k.turn t x.surroundings).1, (k.turn t x.surroundings).2⟩

/-- What comes of events one after the other. -/
def run (x : Traffic) (events : List Event) : Traffic := events.foldl step x

end Traffic

/-- Surroundings that were asked nothing but the questions of listings and passes, and whose members
are as the last totals and the last health stored under their ids leave them. -/
structure Surroundings.Kept (s : Store) (w : Surroundings) : Prop where
  routine : ∀ e ∈ w.past, e.call.IsRoutine
  members : w.store.members = s.members.map fun m =>
    m.updated (lastTotals? w.past m.id) (lastHealth? w.past m.id)

namespace Surroundings.Kept

variable {s : Store} {w : Surroundings}

theorem start (s : Store) : Kept s ⟨s, []⟩ where
  routine := by simp
  members := by simp [lastTotals?, lastHealth?, Member.updated_none]

/-- One more answer to a question of a listing or a pass. -/
theorem serve (h : Kept s w) {c : Call} (hc : c.IsRoutine) (t : Turn) :
    Kept s (t.serve c w).2 where
  routine e he := by
    rw [Turn.past_serve] at he
    rcases List.mem_append.1 he with he | he
    · exact h.routine e he
    · rw [List.mem_singleton.1 he]
      exact hc
  members := by
    have hu := Store.Answers.updated (e := ⟨c, (t.serve c w).1⟩) ⟨t, t.answer_store c w⟩ hc
    rw [hu, h.members, List.map_map, Turn.past_serve]
    apply List.map_congr_left
    intro m _
    rw [Function.comp_apply, Member.updated_updated, Member.id_updated, lastTotals?_concat,
      lastHealth?_concat]

end Surroundings.Kept

namespace Traffic

theorem step_answer_none {x : Traffic} {i : Nat} (h : x.works[i]? = none) (t : Turn) :
    x.step (.answer i t) = x := by
  simp only [step, h]

theorem step_answer_some {x : Traffic} {i : Nat} {k : Work} (h : x.works[i]? = some k) (t : Turn) :
    x.step (.answer i t) =
      ⟨x.works.set i (k.turn t x.surroundings).1, (k.turn t x.surroundings).2⟩ := by
  simp only [step, h]

/-- Whatever happens next, nothing else is asked and no update is lost. -/
theorem kept_step {s : Store} {x : Traffic} (hw : ∀ k ∈ x.works, k.IsRoutine)
    (h : x.surroundings.Kept s) (e : Event) :
    (∀ k ∈ (x.step e).works, k.IsRoutine) ∧ (x.step e).surroundings.Kept s := by
  cases e with
  | list limit request =>
    refine ⟨fun k hk => ?_, h⟩
    rcases List.mem_append.1 hk with hk | hk
    · exact hw k hk
    · rw [List.mem_singleton.1 hk]
      exact Service.listing_isRoutine limit request
  | sweep plan =>
    refine ⟨fun k hk => ?_, h⟩
    rcases List.mem_append.1 hk with hk | hk
    · exact hw k hk
    · rw [List.mem_singleton.1 hk]
      exact Sweep.pass_isRoutine plan
  | answer i t =>
    cases hi : x.works[i]? with
    | none =>
      rw [step_answer_none hi]
      exact ⟨hw, h⟩
    | some k =>
      rw [step_answer_some hi]
      obtain ⟨hk, ht⟩ := (hw k (List.mem_of_getElem? hi)).turn t x.surroundings
      refine ⟨fun k' hk' => ?_, ?_⟩
      · rcases List.mem_or_eq_of_mem_set hk' with hk' | rfl
        · exact hw k' hk'
        · exact hk
      · rcases ht with ht | ⟨c, hc, ht⟩
        · simpa only [ht] using h
        · simpa only [ht] using h.serve hc t

/-- Whatever runs side by side and in whatever order its questions are answered: the totals of each
member are those stored last under its id, all four of them, its health is the health stored last,
and nothing else is changed. -/
theorem run_kept (s : Store) (events : List Event) :
    ((idle s).run events).surroundings.Kept s := by
  have kept (x : Traffic) (hw : ∀ k ∈ x.works, k.IsRoutine) (h : x.surroundings.Kept s) :
      (x.run events).surroundings.Kept s := by
    induction events generalizing x with
    | nil => exact h
    | cons e events ih =>
      obtain ⟨hw, h⟩ := kept_step hw h e
      exact ih _ hw h
  exact kept (idle s) (by simp [idle]) (.start s)

end Traffic
end MultiCluster
