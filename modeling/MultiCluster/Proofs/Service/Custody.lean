import MultiCluster.Proofs.Service.Division
import MultiCluster.Proofs.Text.Octets

/-! The registry in use: what is registered stays as it was registered, and only its status is
changed, by listings and passes that have it on their page or in their scope. -/
namespace MultiCluster.Service

/-- The changes of a store that an operation may make with what it has said. -/
inductive Operation.Changes : Operation → List Exchange → Store → Store → Prop where
  /-- A registration adds the cluster that was submitted. -/
  | registers {x : Submission} {said : List Exchange} {m : Member} {s t : Store}
      (valid : x.validate = .ok m.registration) (gains : s.Gains m t) :
      Changes (.register x) said s t
  /-- A listing stores the health of a cluster of its page. -/
  | health {limit : Nat} {request : PageRequest} {said : List Exchange} {ms : List Member}
      {m : Member} {s t : Store} (h : Health) (list : ⟨.registry .list, .ok ms⟩ ∈ said)
      (page : m.id ∈ (request.slice ms).map (·.id))
      (alters : s.Alters m { m with status := { m.status with health := h } } t) :
      Changes (.list limit request) said s t
  /-- A pass stores the totals of a cluster in its scope. -/
  | totals {plan : Sweep.Plan} {said : List Exchange} {ms : List Member} {m : Member} {s t : Store}
      (x : Totals) (list : ⟨.registry .list, .ok ms⟩ ∈ said)
      (scope : m.id ∈ (plan.covered ms).map (·.id))
      (alters : s.Alters m { m with status := { m.status with
        cpuCapacity := x.cpuCapacity
        memoryCapacity := x.memoryCapacity
        cpuUsage := x.cpuUsage
        memoryUsage := x.memoryUsage } } t) :
      Changes (.pass plan) said s t

variable {k : Work} {a : Moment} {t : Store}

/-- Registering is what an operation does itself, and only for what was submitted to it. -/
private theorem registers_of_create {id : String} {g : Registration} (h : k.IsLogged)
    (ha : a ∈ k.log) (he : a.exchange.call = .registry (.create id g)) :
    ∃ x, k.operation = .register x ∧ x.validate = .ok g := by
  obtain ⟨own, contacts, hd⟩ := h.divides
  obtain ho | ⟨c, -, -, es, hc, hm⟩ := hd.asked ha
  · rw [he] at ho
    cases hk : k.operation with
    | register x =>
      rw [hk] at ho
      exact ⟨x, rfl, Submission.validate_eq_ok_iff.2 ho⟩
    | list limit request =>
      rw [hk] at ho
      cases ho
    | pass plan =>
      rw [hk] at ho
      cases ho
    | _ =>
      rw [hk] at ho
      exact ho.elim
  · obtain hc | ⟨n, hc⟩ | ⟨c, hc⟩ := hc.asks _ hm <;> rw [he] at hc
    · cases hc
    · cases hc
    · exact hc.elim

/-- A change of status is made in a contact. -/
private theorem changes_patch {id : String} {p : Status.Patch} (h : k.IsLogged) (ha : a ∈ k.log)
    (he : a.exchange = ⟨.registry (.patch id p), .ok ()⟩) (hs : a.store.Answers a.exchange t) :
    k.operation.Changes k.exchanges a.store t := by
  obtain ⟨m, rfl, alters⟩ := (he ▸ hs).patched
  obtain ⟨own, contacts, hd⟩ := h.divides
  obtain ho | ⟨c, hc, -, es, hes, hm⟩ := hd.asked ha
  · rw [he] at ho
    obtain ⟨o, flow, log⟩ := k
    cases o with
    | list limit request => cases ho
    | pass plan => cases ho
    | _ => exact ho.elim
  · rw [he] at hm
    obtain hc' | ⟨n, hc'⟩ | ⟨k', hid, hp⟩ := hes.asks _ hm
    · cases hc'
    · cases hc'
    -- the contacts of listings and passes are with the clusters of their page or in their scope
    have hid : m.id ∈ contacts.map (·.id) := hid ▸ List.mem_map_of_mem hc
    have meets := hd.meets
    obtain ⟨o, flow, log⟩ := k
    cases o with
    | list limit request =>
      obtain ⟨health, rfl⟩ := hp
      obtain ⟨hn, -⟩ | ⟨ms, hl, hi⟩ := meets
      · rw [hn] at hid
        cases hid
      · exact .health health hl (hi ▸ hid) alters
    | pass plan =>
      obtain ⟨totals, rfl⟩ := hp
      obtain ⟨hn, -⟩ | ⟨ms, hl, hi, -⟩ := meets
      · rw [hn] at hid
        cases hid
      · exact .totals totals hl (hi.subset hid) alters
    | _ => exact hp.elim

/-- A change of the registry is one of those that the operation may make. -/
theorem Work.IsLogged.changes (h : k.IsLogged) (ha : a ∈ k.log) (hw : a.exchange.IsWrite)
    (hs : a.store.Answers a.exchange t) : k.operation.Changes k.exchanges a.store t := by
  obtain ⟨id, g, m, he⟩ | ⟨id, p, he⟩ := hw.cases
  · obtain ⟨x, hx, hv⟩ := registers_of_create h ha (by rw [he])
    have hg : a.store.Gains m t := hs.registered (by rw [he]; rfl)
    rw [he] at hs
    obtain ⟨now, hr, -⟩ | ⟨⟨f, hf⟩, -⟩ := hs.create
    · obtain rfl := Except.ok.inj hr
      have hv : x.validate = .ok (Member.new id g (some now)).registration := hv
      rw [hx]
      exact .registers hv hg
    · cases hf
  · exact changes_patch h ha he hs

/-- Only listings, registrations and passes change anything. -/
theorem Operation.Changes.operation {o : Operation} {said : List Exchange} {s t : Store}
    (h : o.Changes said s t) : (∃ limit request, o = .list limit request) ∨
      (∃ x, o = .register x) ∨ ∃ plan, o = .pass plan := by
  cases h with
  | registers valid gains => exact .inr (.inl ⟨_, rfl⟩)
  | health h list page alters => exact .inl ⟨_, _, rfl⟩
  | totals x list scope alters => exact .inr (.inr ⟨_, rfl⟩)

namespace Load

variable {s : Store} {x y : Load} {e : Event}

/-- An operation that has begun goes on, and what it has said stays said. -/
theorem Moves.works {i : Nat} (h : x.Moves e y) (hk : x.works[i]? = some k) :
    ∃ k', y.works[i]? = some k' ∧ k.log <+: k'.log := by
  cases h with
  | still e => exact ⟨k, hk, List.prefix_refl _⟩
  | start o =>
    obtain ⟨hi, -⟩ := List.getElem?_eq_some_iff.1 hk
    exact ⟨k, by rw [List.getElem?_append_left hi, hk], List.prefix_refl _⟩
  | @answer before behind k' works move t ht c flow logged =>
    rw [works] at hk
    obtain hi | rfl | hi := Nat.lt_trichotomy i before.length
    · rw [List.getElem?_append_left hi] at hk ⊢
      exact ⟨k, hk, List.prefix_refl _⟩
    · rw [List.getElem?_append_right (Nat.le_refl _), Nat.sub_self] at hk ⊢
      obtain rfl := Option.some_inj.1 hk
      exact ⟨_, rfl, List.prefix_append _ _⟩
    · obtain ⟨n, rfl⟩ := Nat.exists_eq_add_of_lt hi
      have hn : before.length + n + 1 - before.length = n + 1 := by omega
      rw [List.getElem?_append_right (Nat.le_of_lt hi), hn] at hk ⊢
      exact ⟨k, hk, List.prefix_refl _⟩

theorem Sound.works {i : Nat} (h : x.Sound s) (events : List Event) (hk : x.works[i]? = some k) :
    ∃ k', (x.run events).works[i]? = some k' ∧ k.log <+: k'.log := by
  induction events generalizing x k with
  | nil => exact ⟨k, hk, List.prefix_refl _⟩
  | cons e events ih =>
    have hm := moves_step h.logged e
    obtain ⟨k', hk', hp⟩ := hm.works hk
    obtain ⟨k'', hk'', hp'⟩ := ih (h.moves hm).1 hk'
    exact ⟨k'', hk'', hp.trans hp'⟩

/-- The store changes only when an operation is told that a change of the registry was made. -/
theorem Sound.changes (h : x.Sound s) (e : Event) : (x.step e).store = x.store ∨
    ∃ i t k a, e = .answer i t ∧ (x.step e).works[i]? = some k ∧ k.log.getLast? = some a ∧
      a.exchange.IsWrite ∧ k.operation.Changes k.exchanges x.store (x.step e).store := by
  have hm := moves_step h.logged e
  generalize x.step e = y at hm
  cases hm with
  | still e => exact .inl rfl
  | start o => exact .inl rfl
  | @answer before behind k works move t ht c flow logged =>
    have hs := t.answers c x.surroundings
    by_cases hw : (t.moment c x.surroundings).exchange.IsWrite
    · have now : (before ++ k.heard (t.moment c x.surroundings) flow :: behind)[before.length]? =
          some (k.heard (t.moment c x.surroundings) flow) := by
        simp
      refine .inr ⟨_, move, _, _, rfl, now, List.getLast?_concat, hw, ?_⟩
      exact logged.changes (List.mem_append_right _ (List.mem_singleton_self _)) hw hs
    · exact .inl (hs.eq_of_not_isWrite hw)

/-- While only operations are answered that are told of no change, the store stays as it is. -/
theorem Sound.quiet (h : x.Sound s) (events : List Event)
    (hq : ∀ i t, .answer i t ∈ events → ∀ k, (x.run events).works[i]? = some k →
      ∀ e ∈ k.exchanges, ¬ e.IsWrite) : (x.run events).store = x.store := by
  induction events generalizing x with
  | nil => rfl
  | cons e events ih =>
    have hs := (h.moves (moves_step h.logged e)).1
    have rest : ((x.step e).run events).store = (x.step e).store :=
      ih hs fun i t hi => hq i t (List.mem_cons_of_mem _ hi)
    obtain hx | ⟨i, t, k, a, rfl, hk, ha, hw, -⟩ := h.changes e
    · exact rest.trans hx
    · obtain ⟨k', hk', hp⟩ := hs.works events hk
      have ha : a ∈ k'.log := hp.subset (List.mem_of_getLast? ha)
      exact absurd hw (hq i t (List.mem_cons_self ..) k' hk' _ (List.mem_map_of_mem ha))

/-- What is in the registry was there at first or was registered since, under its own id. -/
theorem Sound.origin (h : x.Sound s) {id : String} {m : Member} (hm : x.store.get? id = some m) :
    (∃ n status, s.get? id = some n ∧ m = { n with status }) ∨
      ∃ k ∈ x.works, ∃ sub g now status, k.operation = .register sub ∧ sub.validate = .ok g ∧
        ⟨.registry (.create id g), .ok (.new id g (some now))⟩ ∈ k.exchanges ∧
        m = { Member.new id g (some now) with status } := by
  obtain ho | ⟨n, hn, status, rfl⟩ := h.surroundings.origin id m hm
  · exact .inl ho
  · obtain ⟨e, he, hr⟩ := List.mem_filterMap.1 hn
    obtain ⟨k, hk, he⟩ := List.mem_flatMap.1 (h.said.symm.subset he)
    obtain ⟨id', g, rfl⟩ := Exchange.registered?_eq_some_iff.1 hr
    obtain ⟨now, rfl⟩ := h.submitted hk he
    obtain rfl : id' = id := (Store.get?_eq_some_iff.1 hm).2
    obtain ⟨a, ha, hae⟩ := List.mem_map.1 he
    obtain ⟨sub, ho, hv⟩ := registers_of_create (h.logged k hk) ha (by rw [hae])
    exact .inr ⟨k, hk, sub, g, now, status, ho, hv, he, rfl⟩

/-- A page has the part that was asked for of a list of all ids there were at some time. -/
theorem Sound.page (h : x.Sound s) {limit : Nat} {request : PageRequest}
    {flow : Flow Summary (Except Error (Page Summary))} {log : List Moment} {page : Page Summary}
    (hk : ⟨.list limit request, flow, log⟩ ∈ x.works) (hv : flow.value? = some (.ok page)) :
    ∃ t, s.Grows t ∧ t.Grows x.store ∧ ⟨t, .registry .list, .ok t.members⟩ ∈ log ∧
      page.total = t.ids.length ∧ page.items.map (·.member.id) = request.slice t.ids := by
  obtain ⟨t, ms, hl, htotal, hitems⟩ := Work.IsLogged.page (h.logged _ hk) hv
  obtain ⟨hs, hx⟩ := h.answered _ hk _ hl
  have hm : ms = t.members := by
    obtain ⟨u, ha, -⟩ := hx
    obtain ⟨-, hr | ⟨f, hf⟩⟩ := ha.list
    · exact Except.ok.inj hr
    · cases hf
  subst hm
  refine ⟨t, hs, hx.grows, hl, ?_, ?_⟩
  · rw [htotal, Store.ids, List.length_map]
  · rw [hitems, Store.ids, slice_map]

/-- The members of a list are in the order of the octets of their ids. -/
private theorem ascending_octets (t : Store) :
    (t.members.map fun m => Text.utf8Octets m.id).Pairwise (· < ·) :=
  List.pairwise_map.2 (t.ascending.imp Text.utf8Octets_lt)

/-- What holds of the registry under load, with the store that there was at first: what is in it,
what lists and pages say of it, and how it changes. -/
structure Custody (s : Store) (x : Load) : Prop where
  /-- Each record is under its own id. -/
  keyed : ∀ id m, x.store.get? id = some m → m.id = id
  /-- A list has each id once, in the order of their octets. -/
  listed : ∀ now, ∃ ms, (Store.serve now .list x.store).1 = .ok ms ∧
    (ms.map fun m => Text.utf8Octets m.id).Pairwise (· < ·) ∧
    ∀ id, id ∈ ms.map (·.id) ↔ ∃ m, x.store.get? id = some m
  /-- A page has a part of such a list. -/
  pages : ∀ limit request flow log page, ⟨.list limit request, flow, log⟩ ∈ x.works →
    flow.value? = some (.ok page) → (page.items.map fun i => Text.utf8Octets i.member.id).Pairwise
      (· < ·) ∧ ∃ t, s.Grows t ∧ t.Grows x.store ∧ ⟨t, .registry .list, .ok t.members⟩ ∈ log ∧
        page.total = t.ids.length ∧ page.items.map (·.member.id) = request.slice t.ids
  /-- Records are there for good, and all their fields but the status are as they were. -/
  lasting : ∀ later, x.store.Grows (x.run later).store
  /-- A record was there at first, or a registration was told of it and of the time. -/
  origin : ∀ id m, x.store.get? id = some m → (∃ n status, s.get? id = some n ∧
    m = { n with status }) ∨ ∃ k ∈ x.works, ∃ sub g now status, k.operation = .register sub ∧
      sub.validate = .ok g ∧ ⟨.registry (.create id g), .ok (.new id g (some now))⟩ ∈ k.exchanges ∧
      m = { Member.new id g (some now) with status }
  /-- The registry changes only when an operation is told that its change was made. -/
  changes : ∀ e, (x.step e).store = x.store ∨ ∃ i t k a, e = .answer i t ∧
    (x.step e).works[i]? = some k ∧ k.log.getLast? = some a ∧ a.exchange.IsWrite ∧
    k.operation.Changes k.exchanges x.store (x.step e).store
  /-- All operations but listings, registrations and passes are told of none. -/
  queries : ∀ k ∈ x.works, ∀ e ∈ k.exchanges, e.IsWrite →
    (∃ limit request, k.operation = .list limit request) ∨ (∃ sub, k.operation = .register sub) ∨
      ∃ plan, k.operation = .pass plan
  /-- Operations that are told of none, whatever comes of them, leave the registry as it was. -/
  quiet : ∀ later, (∀ i t, .answer i t ∈ later → ∀ k, (x.run later).works[i]? = some k →
    ∀ e ∈ k.exchanges, ¬ e.IsWrite) → (x.run later).store = x.store

/-- Whatever operations are begun and however their questions are answered, nothing is lost from the
registry, and nothing in it changes but statuses, by listings and passes. -/
theorem run_custody (s : Store) (events : List Event) : Custody s ((idle s).run events) := by
  obtain ⟨h, -⟩ := (sound_idle s).run events
  generalize (idle s).run events = x at h
  constructor
  case keyed =>
    intro id m hm
    exact (Store.get?_eq_some_iff.1 hm).2
  case listed =>
    intro now
    refine ⟨x.store.members, rfl, ascending_octets x.store, ?_⟩
    intro id
    simp only [List.mem_map, Store.get?_eq_some_iff]
  case pages =>
    intro limit request flow log page hk hv
    obtain ⟨t, hs, hx, hl, htotal, hitems⟩ := h.page hk hv
    refine ⟨?_, t, hs, hx, hl, htotal, hitems⟩
    have octets : (page.items.map fun i => Text.utf8Octets i.member.id) =
        request.slice (t.members.map fun m => Text.utf8Octets m.id) := by
      calc page.items.map (fun i => Text.utf8Octets i.member.id)
        _ = (page.items.map (·.member.id)).map Text.utf8Octets := by rw [List.map_map]; rfl
        _ = request.slice (t.ids.map Text.utf8Octets) := by rw [hitems, slice_map]
        _ = request.slice (t.members.map fun m => Text.utf8Octets m.id) := by
          rw [Store.ids, List.map_map]; rfl
    rw [octets]
    exact (ascending_octets t).sublist (slice_sublist request _)
  case lasting =>
    intro later
    exact (h.run later).2
  case origin =>
    intro id m hm
    exact h.origin hm
  case changes => exact h.changes
  case queries =>
    intro k hk e he hw
    obtain ⟨a, ha, rfl⟩ := List.mem_map.1 he
    obtain ⟨-, t, hs, -⟩ := h.answered k hk a ha
    exact ((h.logged k hk).changes ha hw hs).operation
  case quiet => exact h.quiet

end Load
end MultiCluster.Service
