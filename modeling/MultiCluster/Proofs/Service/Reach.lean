import MultiCluster.Proofs.Service.Division

/-! How clusters are reached: whatever is asked of a cluster is asked through a client that was had
for its record in the same operation, and no more clients are had than records are found. -/
namespace MultiCluster.Service

variable {k : Work} {own : List Moment} {contacts : List Contact} {t : Contact}

namespace Contact

/-- Whether the record was found. -/
def isFound (t : Contact) : Bool := t.talk.any (·.exchange.isFound)

/-- The contact begins with the record that there was under the id, and the client for it. -/
def Binds (t : Contact) (c : Client) : Prop :=
  ∃ s u m status rest,
    t.talk = ⟨s, .registry (.get t.id), .ok m⟩ :: ⟨u, .connect m, .ok c⟩ :: rest ∧
      s.get? t.id = some m ∧ u.get? t.id = some { m with status }

/-- One look at the record, and one client just when it is found. -/
theorem IsMade.counts {P : Status.Patch → Prop} {ended : Prop} (h : t.IsMade P ended) (he : ended) :
    t.talk.countP (·.exchange.isLookup) = 1 ∧
      t.talk.countP (·.exchange.isConnection) = t.isFound.toNat := by
  obtain ⟨es, hc, -, hes⟩ := h
  obtain rfl := hes he
  simpa [isFound, List.countP_map, Function.comp_def] using hc.counts

theorem IsMade.connections_le {P : Status.Patch → Prop} {ended : Prop} (h : t.IsMade P ended) :
    t.talk.countP (·.exchange.isConnection) ≤ t.isFound.toNat := by
  obtain ⟨es, hc, hp, -⟩ := h
  simpa [isFound, List.countP_map, Function.comp_def] using hc.connections_le hp

end Contact

/-- An operation itself asks nothing of any cluster. -/
private theorem client?_of_asksItself {o : Operation} {c : Call} (h : o.AsksItself c) :
    c.client? = none := by
  cases c with
  | registry c => rfl
  | freshId => rfl
  | clock => rfl
  | connect m => rfl
  | monitor endpoint => rfl
  | query monitor range => rfl
  | _ =>
    cases o with
    | list limit request => cases h
    | pass plan => cases h
    | _ => exact h.elim

/-- Only a registration asks for a client itself. -/
private theorem isConnection_of_asksItself {o : Operation} (ho : ∀ x, o ≠ .register x)
    {e : Exchange} (h : o.AsksItself e.call) : e.isConnection = false := by
  obtain ⟨c, r⟩ := e
  cases c with
  | connect m =>
    cases o with
    | register x => exact absurd rfl (ho x)
    | list limit request => cases h
    | pass plan => cases h
    | _ => exact h.elim
  | _ => rfl

/-- Clients and records that were found compare as they do in each contact. -/
private theorem countP_contacts {r : Nat → Nat → Prop} (zero : r 0 0)
    (add : ∀ a b c d, r a b → r c d → r (a + c) (b + d)) {ts : List Contact}
    (h : ∀ t ∈ ts, r (t.talk.countP (·.exchange.isConnection)) t.isFound.toNat) :
    r ((ts.flatMap (·.talk)).countP (·.exchange.isConnection)) (ts.countP (·.isFound)) := by
  induction ts with
  | nil => exact zero
  | cons t ts ih =>
    have found : (t :: ts).countP (·.isFound) = t.isFound.toNat + ts.countP (·.isFound) := by
      rw [List.countP_cons, Nat.add_comm]
      cases t.isFound <;> rfl
    rw [List.flatMap_cons, List.countP_append, found]
    apply add
    · exact h t (List.mem_cons_self ..)
    · exact ih fun u hu => h u (List.mem_cons_of_mem _ hu)

/-- All clients are had in contacts. -/
private theorem connections_eq (h : k.Divides own contacts)
    (ho : ∀ x, k.operation ≠ .register x) : k.exchanges.countP (·.isConnection) =
      (contacts.flatMap (·.talk)).countP (·.exchange.isConnection) := by
  have alone : own.countP (·.exchange.isConnection) = 0 := by
    apply List.countP_eq_zero.2
    intro a ha
    simp [isConnection_of_asksItself ho (h.asks a ha)]
  calc k.exchanges.countP (·.isConnection)
    _ = k.log.countP (·.exchange.isConnection) := List.countP_map
    _ = (contacts.flatMap (·.talk) ++ own).countP (·.exchange.isConnection) := h.perm.countP_eq _
    _ = (contacts.flatMap (·.talk)).countP (·.exchange.isConnection) := by
      rw [List.countP_append, alone, Nat.add_zero]

/-- There are never more clients than records that were found. -/
theorem Work.Divides.connections_le (h : k.Divides own contacts)
    (ho : ∀ x, k.operation ≠ .register x) :
    k.exchanges.countP (·.isConnection) ≤ contacts.countP (·.isFound) := by
  rw [connections_eq h ho]
  apply countP_contacts (Nat.le_refl 0) fun _ _ _ _ => Nat.add_le_add
  exact fun t ht => (h.makes t ht).connections_le

/-- In the end there are as many clients as records that were found. -/
theorem Work.Divides.connections (h : k.Divides own contacts) (hv : k.flow.value?.isSome)
    (ho : ∀ x, k.operation ≠ .register x) :
    k.exchanges.countP (·.isConnection) = contacts.countP (·.isFound) := by
  rw [connections_eq h ho]
  apply countP_contacts rfl fun _ _ _ _ ha hb => congrArg₂ (· + ·) ha hb
  exact fun t ht => ((h.makes t ht).counts hv).2

private theorem connections_attempts (g : Registration) (first : String)
    (taken : List (String × String)) (answer : Except Error Member) :
    (attempts g first taken answer).countP (·.isConnection) = 0 := by
  induction taken generalizing first with
  | nil => rfl
  | cons t taken ih =>
    rw [attempts, List.countP_cons, List.countP_cons, ih]
    rfl

/-- A registration that asks for nodes has had two clients: one for what was submitted, and one for
the record. -/
theorem Work.IsLogged.connections {x : Submission} {flow : Flow Unit (Except Error Detail)}
    {log : List Moment} (h : Work.IsLogged ⟨.register x, flow, log⟩) {c : Client}
    {answer : Except Error (List Node)} (hn : ⟨.nodes c, answer⟩ ∈ log.map (·.exchange)) :
    (log.map (·.exchange)).countP (·.isConnection) = 2 := by
  obtain ⟨e, -, rfl, -⟩ | ⟨n, -, -, hp, -⟩ := enrolled h
  · cases hn
  · obtain ⟨first, now, k, taken, m, found, rfl, he⟩ := nodes_enrollment hp hn
    rw [he, Enrollment.exchanges, List.countP_append, List.countP_append, connections_attempts]
    rfl

/-- Which operations are for the cluster under an id alone, and get as far as to ask for it. -/
def Operation.IsFor (id : String) : Operation → Prop
  | list .. => False
  | client i => i = id
  | detail i => i = id
  | nodes i => i = id
  | register _ => False
  | metrics i request => i = id ∧ request.validate = .ok ()
  | deployments i .. => i = id
  | deployment i .. => i = id
  | apply i .. => i = id
  | delete i .. => i = id
  | pass _ => False

/-- A program that asks for the record under an id first, and has the error that it gets. -/
private def Needs {α β : Type} (id : String) (f : Flow β (Except Error α)) : Prop :=
  ∃ next, f = .ask (.registry (.get id)) next ∧ ∀ e, next (.error e) = .done (.error e)

private theorem needs_of_get {α β : Type} {id : String} {j : Action α} {f : Member → Action α}
    (h : j = Action.get id >>= f) : Needs (β := β) id (.ofJob j.run) := by
  rw [h, get_run]
  exact ⟨_, rfl, fun _ => rfl⟩

private theorem needs_of_client {α β : Type} {id : String} {j : Action α} {f : Client → Action α}
    (h : j = Action.client id >>= f) : Needs (β := β) id (.ofJob j.run) := by
  apply needs_of_get
  rw [h, Action.client, bind_assoc]

private theorem needs_of_reach {α β : Type} {id : String} {j : Action α} {f : Client → Action α}
    (h : j = reach id >>= f) : Needs (β := β) id (.ofJob j.run) := by
  apply needs_of_client
  rw [h, reach, bind_assoc]

private theorem needs_of_isFor {o : Operation} {id : String} (h : o.IsFor id) :
    Needs id o.program := by
  cases o with
  | list limit request => exact h.elim
  | register x => exact h.elim
  | pass plan => exact h.elim
  | metrics i request =>
    obtain ⟨rfl, hv⟩ := h
    rw [Operation.program, metrics_run hv]
    exact ⟨_, rfl, fun _ => rfl⟩
  | client i =>
    obtain rfl : i = id := h
    exact needs_of_get rfl
  | detail i =>
    obtain rfl : i = id := h
    exact needs_of_get rfl
  | nodes i =>
    obtain rfl : i = id := h
    exact needs_of_client rfl
  | _ i =>
    obtain rfl : i = id := h
    exact needs_of_reach rfl

namespace Load

variable {s : Store} {x : Load}

private theorem Sound.binds (h : x.Sound s) (hk : k ∈ x.works) {id : String} {talk : List Moment}
    (ht : talk.Sublist k.log) {m : Member} {c : Client} {rest : List Exchange}
    (he : talk.map (·.exchange) = ⟨.registry (.get id), .ok m⟩ :: ⟨.connect m, .ok c⟩ :: rest) :
    Contact.Binds ⟨id, talk⟩ c := by
  obtain ⟨a, as, rfl, ha, he⟩ := List.map_eq_cons_iff.1 he
  obtain ⟨b, bs, rfl, hb, -⟩ := List.map_eq_cons_iff.1 he
  obtain ⟨u, e⟩ := a
  obtain ⟨v, f⟩ := b
  obtain rfl : e = ⟨.registry (.get id), .ok m⟩ := ha
  obtain rfl : f = ⟨.connect m, .ok c⟩ := hb
  have found : u.get? id = some m := by
    obtain ⟨-, w, hw, -⟩ := h.answered k hk _ (ht.subset (List.mem_cons_self ..))
    obtain ⟨-, ⟨n, hn, hr⟩ | ⟨g, hg⟩⟩ := hw.get
    · obtain rfl := Except.ok.inj hr
      exact hn
    · cases hg
  -- between the two others may have changed the status
  have leads : Moment.Leads ⟨u, .registry (.get id), .ok m⟩ v :=
    List.rel_of_pairwise_cons ((h.ordered k hk).sublist ht) (List.mem_cons_self ..)
  obtain ⟨status, hs⟩ := leads.grows id m found
  exact ⟨u, v, m, status, bs, rfl, found, hs⟩

/-- What goes through a client is asked in a contact that has begun with this client. -/
theorem Sound.bound (h : x.Sound s) (hk : k ∈ x.works) (hd : k.Divides own contacts)
    (ht : t ∈ contacts) {a : Moment} (ha : a ∈ t.talk) {c : Client}
    (hc : a.exchange.call.client? = some c) : t.Binds c := by
  obtain ⟨es, hes, hp, -⟩ := hd.makes t ht
  obtain ⟨m, rest, he⟩ := hes.client hp (List.mem_map_of_mem ha) hc
  exact h.binds hk (hd.talks t ht) he

/-- A client that is handed out is one for the record that there was. -/
theorem Sound.handed (h : x.Sound s) {id : String} {flow : Flow Unit (Except Error Client)}
    {log : List Moment} (hk : ⟨.client id, flow, log⟩ ∈ x.works) {c : Client}
    (hv : flow.value? = some (.ok c)) : Contact.Binds ⟨id, log⟩ c := by
  have hl : Flow.Logged (Flow.ofJob (Action.client id).run) log flow := h.logged _ hk
  obtain ⟨j, rfl, hj⟩ := hl.ofJob
  cases j with
  | ask q next => cases hv
  | done r =>
    obtain rfl : r = .ok c := Option.some_inj.1 hv
    rw [client_run] at hj
    obtain ⟨given, es, hes, hg⟩ := Job.says_ask_done_iff.1 hj
    cases given with
    | error e => cases (Job.says_done_iff.1 hg).2
    | ok m =>
      obtain ⟨connected, fs, rfl, hc⟩ := Job.says_ask_done_iff.1 hg
      obtain ⟨rfl, hr⟩ := Job.says_done_iff.1 hc
      cases hr
      exact h.binds hk (List.Sublist.refl log) hes

/-- The record under an id that is not in use is not given. -/
private theorem serve_get_of_absent {t : Turn} {w : Surroundings} {id : String}
    (ht : t.fault = none) (hw : w.store.get? id = none) :
    t.serve (.registry (.get id)) w = (.error (.clusterNotFound id),
      ⟨w.store, w.past ++ [⟨.registry (.get id), .error (.clusterNotFound id)⟩]⟩) := by
  simp only [Turn.serve, Turn.answer, ht, Store.serve, hw]

/-- For a cluster that is not registered an operation fails at once. -/
private theorem step_of_absent {i : Nat} {o : Operation} {id : String} {t : Turn}
    (hi : x.works[i]? = some (.start o)) (ho : o.IsFor id) (hx : x.store.get? id = none)
    (ht : t.fault = none) : (x.step (.answer i t)).works[i]? = some ⟨o,
      .done (.error (.clusterNotFound id)),
      [⟨x.store, .registry (.get id), .error (.clusterNotFound id)⟩]⟩ := by
  obtain ⟨next, hp, hn⟩ := needs_of_isFor ho
  have hs := serve_get_of_absent (t := t.numbered x.surroundings.past.length) ht hx
  have turned : (Work.start o).turn (t.numbered x.surroundings.past.length) x.surroundings =
      (⟨o, .done (.error (.clusterNotFound id)),
        [⟨x.store, .registry (.get id), .error (.clusterNotFound id)⟩]⟩,
        ⟨x.store, x.surroundings.past ++
          [⟨.registry (.get id), .error (.clusterNotFound id)⟩]⟩) := by
    simp only [Work.start, Work.turn, hp, Flow.turn_ask, hs, hn]
    simp [Flow.settle, store]
  obtain ⟨hl, -⟩ := List.getElem?_eq_some_iff.1 hi
  simp only [step, hi, turned]
  exact List.getElem?_set_self hl

/-- How an operation has got at clusters by what it has said itself and in its contacts. -/
structure Reaches (k : Work) (own : List Moment) (contacts : List Contact) : Prop where
  divides : k.Divides own contacts
  /-- Nothing that goes through a client is said outside of contacts. -/
  alone : ∀ a ∈ own, a.exchange.call.client? = none
  /-- In a contact everything goes through the client that was had for the record of the cluster. -/
  bound : ∀ t ∈ contacts, ∀ a ∈ t.talk, ∀ c, a.exchange.call.client? = some c → t.Binds c
  /-- No more clients are had than records are found. -/
  limited : (∀ sub, k.operation ≠ .register sub) →
    k.exchanges.countP (·.isConnection) ≤ contacts.countP (·.isFound)
  /-- In the end each contact has looked for its record once, and each record that was found has led
  to one client. -/
  counted : k.flow.value?.isSome → (∀ sub, k.operation ≠ .register sub) →
    (∀ t ∈ contacts, t.talk.countP (·.exchange.isLookup) = 1) ∧
      k.exchanges.countP (·.isConnection) = contacts.countP (·.isFound)
  /-- A registration that asks for nodes has had two clients. -/
  twice : ∀ sub, k.operation = .register sub → ∀ c answer, ⟨.nodes c, answer⟩ ∈ k.exchanges →
    k.exchanges.countP (·.isConnection) = 2

/-- What holds of a load on how clusters are reached. -/
structure Reach (x : Load) : Prop where
  works : ∀ k ∈ x.works, ∃ own contacts, Reaches k own contacts
  /-- No client is had twice. -/
  clients : ((x.works.flatMap (·.exchanges)).filterMap (·.given?)).Nodup
  /-- A client that is handed out was had for the record of the cluster. -/
  handed : ∀ id flow log c, ⟨.client id, flow, log⟩ ∈ x.works → flow.value? = some (.ok c) →
    Contact.Binds ⟨id, log⟩ c
  /-- An operation for a cluster that is not registered fails, and no client is had. -/
  absent : ∀ i o id t, x.works[i]? = some (.start o) → o.IsFor id → x.store.get? id = none →
    t.fault = none → (x.step (.answer i t)).works[i]? = some ⟨o,
      .done (.error (.clusterNotFound id)),
      [⟨x.store, .registry (.get id), .error (.clusterNotFound id)⟩]⟩

/-- Whatever operations are begun and however their questions are answered, each cluster is reached
through clients of its own. -/
theorem run_reach (s : Store) (events : List Event) : Reach ((idle s).run events) := by
  obtain ⟨h, -⟩ := (sound_idle s).run events
  generalize (idle s).run events = x at h
  constructor
  case works =>
    intro k hk
    obtain ⟨own, contacts, hd⟩ := (h.logged k hk).divides
    refine ⟨own, contacts, hd, ?alone, ?bound, hd.connections_le, ?counted, ?twice⟩
    case alone =>
      intro a ha
      exact client?_of_asksItself (hd.asks a ha)
    case bound =>
      intro t ht a ha c hc
      exact h.bound hk hd ht ha hc
    case counted =>
      intro hv ho
      refine ⟨?_, hd.connections hv ho⟩
      intro t ht
      exact ((hd.makes t ht).counts hv).1
    case twice =>
      intro sub ho c answer hn
      obtain ⟨o, flow, log⟩ := k
      obtain rfl : o = .register sub := ho
      exact Work.IsLogged.connections (h.logged _ hk) hn
  case clients => exact (h.said.filterMap _).nodup_iff.2 h.surroundings.clients_nodup
  case handed =>
    intro id flow log c hk hv
    exact h.handed hk hv
  case absent =>
    intro i o id t hi ho hx ht
    exact step_of_absent hi ho hx ht

end Load
end MultiCluster.Service
