import MultiCluster.Proofs.Service.Admission
import MultiCluster.Proofs.Service.Contact
import MultiCluster.Proofs.Service.Measure
import MultiCluster.Proofs.Sweep.Pass

/-! All that an operation says is about itself or belongs to one of its contacts with clusters, and
which clusters these are. -/
namespace MultiCluster.Service

open MultiCluster.Flow (Course Splits whole)

/-- What was said to get at the cluster under an id. -/
structure Contact where
  id : String
  talk : List Moment

/-- What was said is the beginning of a contact, and all of it once that is over. -/
def Contact.IsMade (t : Contact) (P : Status.Patch → Prop) (ended : Prop) : Prop :=
  ∃ es, IsContact t.id P es ∧ t.talk.map (·.exchange) <+: es ∧
    (ended → t.talk.map (·.exchange) = es)

theorem Contact.IsMade.imp {t : Contact} {P : Status.Patch → Prop} {ended ended' : Prop}
    (h : t.IsMade P ended) (ho : ended' → ended) : t.IsMade P ended' := by
  obtain ⟨es, hc, hp, he⟩ := h
  exact ⟨es, hc, hp, fun h => he (ho h)⟩

/-- A job that gets at a cluster makes a contact on its way. -/
private theorem isMade_of_says {β : Type} {P : Status.Patch → Prop} {j k : Job β} {t : Contact}
    (h : j.Says (t.talk.map (·.exchange)) k) (hj : j.Contacts t.id P) :
    t.IsMade P (∃ b, k = .done b) := by
  cases k with
  | done b => exact ⟨_, h.isContact hj, List.prefix_refl _, fun _ => rfl⟩
  | ask c next =>
    obtain ⟨es, a, hp, hd⟩ := h.exists_prefix
    refine ⟨es, hd.isContact hj, hp, ?_⟩
    rintro ⟨b, hb⟩
    cases hb

namespace Operation

/-- Which changes of status an operation makes. -/
def Stores : Operation → Status.Patch → Prop
  | list .. => IsHealth
  | pass _ => IsTotals
  | _ => fun _ => False

/-- What an operation asks that belongs to no contact. -/
def AsksItself : Operation → Call → Prop
  | list .., c => c = .registry .list
  | pass _, c => c = .registry .list
  | register x, c => match c with
    | .freshId => True
    | .clock => True
    | .connect m => x.IsValid ∧ ∃ id now, m = x.record id now
    | .registry (.create _ g) => x.IsValid ∧ g = x.registration
    | _ => False
  | metrics id _, c => match c with
    | .registry (.get i) => i = id
    | .monitor _ => True
    | .query .. => True
    | _ => False
  | _, _ => False

/-- With which clusters an operation has contact after what it has said: a listing with those of its
page, a pass with those in its scope one batch after the other, a registration with the cluster that
it has registered, a query of metrics with none, and all others with the one that they are for. -/
def Meets : Operation → List Exchange → Prop → List String → Prop
  | list _ request, said, _, ids => (ids = [] ∧ ∀ ms, ⟨.registry .list, .ok ms⟩ ∉ said) ∨
    ∃ ms, ⟨.registry .list, .ok ms⟩ ∈ said ∧ ids = (request.slice ms).map (·.id)
  | pass plan, said, finished, ids => (ids = [] ∧ ∀ ms, ⟨.registry .list, .ok ms⟩ ∉ said) ∨
    ∃ ms, ⟨.registry .list, .ok ms⟩ ∈ said ∧ ids <+: (plan.covered ms).map (·.id) ∧
      (finished → ids = (plan.covered ms).map (·.id))
  | register _, said, _, ids => ids = [] ∨ ∃ m ∈ said.filterMap (·.registered?), ids = [m.id]
  | metrics .., _, _, ids => ids = []
  | client id, _, _, ids => ids = [id]
  | detail id, _, _, ids => ids = [id]
  | nodes id, _, _, ids => ids = [id]
  | deployments id .., _, _, ids => ids = [id]
  | deployment id .., _, _, ids => ids = [id]
  | apply id .., _, _, ids => ids = [id]
  | delete id .., _, _, ids => ids = [id]

end Operation

/-- The parts of what an operation has said: what it has said itself and its contacts. -/
structure Work.Divides (k : Work) (own : List Moment) (contacts : List Contact) : Prop where
  perm : k.log.Perm (contacts.flatMap (·.talk) ++ own)
  sublist : own.Sublist k.log
  talks : ∀ t ∈ contacts, t.talk.Sublist k.log
  asks : ∀ a ∈ own, k.operation.AsksItself a.exchange.call
  /-- The contacts are over when the operation is. -/
  makes : ∀ t ∈ contacts, t.IsMade k.operation.Stores k.flow.value?.isSome
  meets : k.operation.Meets k.exchanges k.flow.value?.isSome (contacts.map (·.id))

/-- Whatever was said was said by the operation itself or in a contact. -/
theorem Work.Divides.asked {k : Work} {own : List Moment} {contacts : List Contact} {a : Moment}
    (h : k.Divides own contacts) (ha : a ∈ k.log) : k.operation.AsksItself a.exchange.call ∨
      ∃ t ∈ contacts, a ∈ t.talk ∧
        ∃ es, IsContact t.id k.operation.Stores es ∧ a.exchange ∈ es := by
  obtain ha | ha := List.mem_append.1 (h.perm.subset ha)
  · obtain ⟨t, ht, ha⟩ := List.mem_flatMap.1 ha
    obtain ⟨es, hc, hp, -⟩ := h.makes t ht
    exact .inr ⟨t, ht, ha, es, hc, hp.subset (List.mem_map_of_mem ha)⟩
  · exact .inl (h.asks a ha)

/-- Jobs on their way that get at one cluster each make one contact each. -/
private theorem exists_contacts {β : Type} {P : Status.Patch → Prop} {f : Member → Job β}
    (hf : ∀ m, (f m).Contacts m.id P) {threads : List (Thread β)} {ms : List Member}
    (hj : threads.map (·.job) = ms.map f) (hr : ∀ t ∈ threads, t.Runs) :
    ∃ contacts : List Contact, contacts.map (·.id) = ms.map (·.id) ∧
      contacts.map (·.talk) = threads.map (·.talk) ∧
      ∀ t ∈ contacts, t.IsMade P (∀ x ∈ threads, ∃ b, x.now = .done b) := by
  induction threads generalizing ms with
  | nil =>
    obtain rfl : ms = [] := List.map_eq_nil_iff.1 hj.symm
    exact ⟨[], rfl, rfl, by simp⟩
  | cons x threads ih =>
    obtain ⟨m, ms, rfl, hm, hj⟩ := List.map_eq_cons_iff.1 hj.symm
    obtain ⟨contacts, hi, ht, hc⟩ := ih hj.symm fun x h => hr x (List.mem_cons_of_mem _ h)
    have hs : (f m).Says (x.talk.map (·.exchange)) x.now := hm ▸ hr x (List.mem_cons_self ..)
    have made : Contact.IsMade ⟨m.id, x.talk⟩ P (∃ b, x.now = .done b) := isMade_of_says hs (hf m)
    refine ⟨⟨m.id, x.talk⟩ :: contacts, by simp [hi], by simp [ht], ?_⟩
    intro t h
    obtain rfl | h := List.mem_cons.1 h
    · exact made.imp fun ho => ho x (List.mem_cons_self ..)
    · exact (hc t h).imp fun ho y hy => ho y (List.mem_cons_of_mem _ hy)

private theorem done_of_map {β : Type} {threads : List (Thread β)} {bs : List β}
    (h : threads.map (·.now) = bs.map .done) : ∀ t ∈ threads, ∃ b, t.now = .done b := by
  intro t ht
  have hm : t.now ∈ bs.map Job.done := h ▸ List.mem_map_of_mem ht
  obtain ⟨b, -, hb⟩ := List.mem_map.1 hm
  exact ⟨b, hb.symm⟩

/-- A listing on its way: it has not got the list, or got an error, or inspects the members of its
page. -/
private theorem course_listing {limit : Nat} {request : PageRequest} {own : List Moment}
    {threads : List (Thread Summary)} {g : Flow Summary (Except Error (Page Summary))}
    (h : Course (listing limit request) own threads g) :
    (threads = [] ∧ (own = [] ∨ ∃ s e, own = [⟨s, .registry .list, .error e⟩]) ∧
      ∀ page, g.value? ≠ some (.ok page)) ∨
      ∃ s ms, own = [⟨s, .registry .list, .ok ms⟩] ∧
        threads.map (·.job) = (request.slice ms).map inspect ∧ (∀ t ∈ threads, t.Runs) ∧
        (g.value? = none ∨ ∃ xs, threads.map (·.now) = xs.map .done ∧
          g.value? = some (.ok ⟨xs, ms.length, request⟩)) := by
  rw [listing] at h
  rcases h with _ | _ | ⟨s, r, rest⟩
  · exact .inl ⟨rfl, .inl rfl, fun page hp => by cases hp⟩
  · cases r with
    | error e =>
      rcases rest with ⟨⟩
      exact .inl ⟨rfl, .inr ⟨s, e, rfl⟩, fun page hp => by cases hp⟩
    | ok ms =>
      refine .inr ⟨s, ms, ?_⟩
      have hj : ∀ j ∈ (request.slice ms).map inspect, j.value? = none := by
        simp [(inspect_contacts _).value?]
      obtain ⟨rfl, hm, hr, hv⟩ | ⟨front, more, bs, rfl, hm, hr, hb, hd⟩ := Course.pool_cases hj rest
      · exact ⟨rfl, hm, hr, .inl hv⟩
      · rcases hd with ⟨⟩
        rw [List.append_nil]
        exact ⟨rfl, hm, hr, .inr ⟨bs, hb, rfl⟩⟩

/-- The summary of a member shows it with the health that was found, and otherwise as it is. -/
theorem member_of_inspect {m : Member} {es : List Exchange} {x : Summary}
    (h : (inspect m).Says es (.done x)) :
    x.member = { m with status := { m.status with health := x.health } } := by
  rw [inspect_eq, summarize_eq, Job.says_bind_done_iff] at h
  obtain ⟨_, _, y, -, hy, hx⟩ := h
  obtain ⟨_, _, -, hx⟩ := Job.says_ask_done_iff.1 hx
  obtain ⟨-, hx⟩ := Job.says_done_iff.1 hx
  obtain ⟨_, _, seen, -, -, hy⟩ := Job.says_bind_done_iff.1 hy
  cases hx
  cases seen with
  | none =>
    obtain ⟨-, hy⟩ := Job.says_done_iff.1 hy
    cases hy
    rfl
  | some seen =>
    obtain ⟨_, _, -, hy⟩ := Job.says_ask_done_iff.1 hy
    obtain ⟨-, hy⟩ := Job.says_done_iff.1 hy
    cases hy
    rfl

private theorem ids_of_inspects {threads : List (Thread Summary)} {ms : List Member}
    {xs : List Summary} (hj : threads.map (·.job) = ms.map inspect)
    (hx : threads.map (·.now) = xs.map .done) (hr : ∀ t ∈ threads, t.Runs) :
    xs.map (·.member.id) = ms.map (·.id) := by
  induction threads generalizing ms xs with
  | nil =>
    obtain rfl : ms = [] := List.map_eq_nil_iff.1 hj.symm
    obtain rfl : xs = [] := List.map_eq_nil_iff.1 hx.symm
    rfl
  | cons t threads ih =>
    obtain ⟨m, ms, rfl, hm, hj⟩ := List.map_eq_cons_iff.1 hj.symm
    obtain ⟨x, xs, rfl, hd, hx⟩ := List.map_eq_cons_iff.1 hx.symm
    have hs : (inspect m).Says (t.talk.map (·.exchange)) (.done x) := by
      rw [hm, hd]
      exact hr t (List.mem_cons_self ..)
    have rest := ih hj.symm hx.symm fun t ht => hr t (List.mem_cons_of_mem _ ht)
    rw [List.map_cons, List.map_cons, member_of_inspect hs, rest]

private theorem course_visitBatches {limit : Nat} {r : Sweep.Report} {batches : List (List Member)}
    {own : List Moment} {threads : List (Thread Sweep.Outcome)}
    {g : Flow Sweep.Outcome (Except Error Sweep.Report)}
    (h : Course (Sweep.visitBatches limit r batches).settle own threads g) :
    own = [] ∧ threads.map (·.job) <+: batches.flatten.map Sweep.visit ∧
      (∀ t ∈ threads, t.Runs) ∧ (g.value?.isSome →
        threads.map (·.job) = batches.flatten.map Sweep.visit ∧
          ∀ t ∈ threads, ∃ o, t.now = .done o) := by
  induction batches generalizing r threads with
  | nil =>
    rcases h with ⟨⟩
    exact ⟨rfl, List.prefix_refl _, by simp, fun _ => ⟨rfl, by simp⟩⟩
  | cons batch batches ih =>
    have hj : ∀ j ∈ batch.map Sweep.visit, j.value? = none := by
      simp [(visit_contacts _).value?]
    rw [List.flatten_cons, List.map_append]
    obtain ⟨rfl, hm, hr, hv⟩ | ⟨front, more, bs, rfl, hm, hr, hb, hd⟩ := Course.pool_cases hj h
    · exact ⟨rfl, hm ▸ List.prefix_append _ _, hr, by simp [hv]⟩
    · obtain ⟨rfl, hp, hr', hf⟩ := ih hd
      rw [List.map_append, hm]
      refine ⟨rfl, (List.prefix_append_right_inj _).2 hp, ?_, fun hg => ?_⟩
      · simp only [List.mem_append]
        rintro t (ht | ht)
        · exact hr t ht
        · exact hr' t ht
      · obtain ⟨he, hn⟩ := hf hg
        refine ⟨by rw [he], ?_⟩
        simp only [List.mem_append]
        rintro t (ht | ht)
        · exact done_of_map hb t ht
        · exact hn t ht

/-- A pass on its way: it has not got the list, or got an error, or visits the members in its scope
one after the other. -/
private theorem course_pass {plan : Sweep.Plan} {own : List Moment}
    {threads : List (Thread Sweep.Outcome)} {g : Flow Sweep.Outcome (Except Error Sweep.Report)}
    (h : Course (Sweep.pass plan) own threads g) :
    (threads = [] ∧ (own = [] ∨ ∃ s e, own = [⟨s, .registry .list, .error e⟩])) ∨
      ∃ s ms, own = [⟨s, .registry .list, .ok ms⟩] ∧
        threads.map (·.job) <+: (plan.covered ms).map Sweep.visit ∧ (∀ t ∈ threads, t.Runs) ∧
        (g.value?.isSome → threads.map (·.job) = (plan.covered ms).map Sweep.visit ∧
          ∀ t ∈ threads, ∃ o, t.now = .done o) := by
  rw [Sweep.pass] at h
  rcases h with _ | _ | ⟨s, r, rest⟩
  · exact .inl ⟨rfl, .inl rfl⟩
  · cases r with
    | error e =>
      rcases rest with ⟨⟩
      exact .inl ⟨rfl, .inr ⟨s, e, rfl⟩⟩
    | ok ms =>
      obtain ⟨rfl, hp, hr, hf⟩ := course_visitBatches rest
      rw [Sweep.flatten_batches] at hp hf
      exact .inr ⟨s, ms, rfl, hp, hr, hf⟩

variable {k : Work} {own : List Moment}

private theorem divides_of_threads {β : Type} {threads : List (Thread β)} {f : Member → Job β}
    {ms : List Member} (hs : Splits k.log own threads)
    (ha : ∀ a ∈ own, k.operation.AsksItself a.exchange.call)
    (hf : ∀ m, (f m).Contacts m.id k.operation.Stores) (hj : threads.map (·.job) = ms.map f)
    (hr : ∀ t ∈ threads, t.Runs)
    (hd : k.flow.value?.isSome → ∀ t ∈ threads, ∃ b, t.now = .done b)
    (hm : k.operation.Meets k.exchanges k.flow.value?.isSome (ms.map (·.id))) :
    ∃ contacts, k.Divides own contacts := by
  obtain ⟨contacts, hi, ht, hc⟩ := exists_contacts hf hj hr
  refine ⟨contacts, ?_, hs.own, fun t h => ?_, ha, fun t h => (hc t h).imp hd, hi ▸ hm⟩
  · have he : contacts.flatMap (·.talk) = threads.flatMap (·.talk) := by
      rw [List.flatMap_def, List.flatMap_def, ht]
    rw [he]
    exact hs.perm
  · have hmem : t.talk ∈ threads.map (·.talk) := ht ▸ List.mem_map_of_mem h
    obtain ⟨x, hx, he⟩ := List.mem_map.1 hmem
    exact he ▸ hs.threads x hx

/-- Without the list of members there is nothing to do. -/
private theorem divides_of_nothing {β : Type} (hs : Splits k.log own ([] : List (Thread β)))
    (ho : own = [] ∨ ∃ s e, own = [⟨s, .registry .list, .error e⟩])
    (ha : k.operation.AsksItself (.registry .list))
    (hm : (∀ ms, ⟨.registry .list, .ok ms⟩ ∉ k.exchanges) →
      k.operation.Meets k.exchanges k.flow.value?.isSome []) :
    ∃ contacts, k.Divides own contacts := by
  have hp : k.log.Perm own := hs.perm
  refine ⟨[], hp, hs.own, by simp, fun a h => ?_, by simp, hm fun ms h => ?_⟩
  · obtain rfl | ⟨s, e, rfl⟩ := ho
    · cases h
    · exact List.mem_singleton.1 h ▸ ha
  · obtain ⟨a, hl, he⟩ := List.mem_map.1 h
    have hl := hp.subset hl
    obtain rfl | ⟨s, e, rfl⟩ := ho
    · cases hl
    · cases List.mem_singleton.1 hl ▸ he

private theorem divides_list {limit : Nat} {request : PageRequest}
    {flow : Flow Summary (Except Error (Page Summary))} {log : List Moment}
    (h : Work.IsLogged ⟨.list limit request, flow, log⟩) :
    ∃ own contacts, Work.Divides ⟨.list limit request, flow, log⟩ own contacts := by
  obtain ⟨own, threads, hc, hs⟩ := h
  refine ⟨own, ?_⟩
  obtain ⟨rfl, ho, -⟩ | ⟨s, ms, rfl, hj, hr, hd⟩ := course_listing hc
  · exact divides_of_nothing hs ho rfl fun hn => .inl ⟨rfl, hn⟩
  · have hl : ⟨.registry .list, .ok ms⟩ ∈ log.map (·.exchange) :=
      List.mem_map_of_mem (hs.own.subset (List.mem_singleton_self _))
    refine divides_of_threads hs ?_ inspect_contacts hj hr (fun hv => ?_) (.inr ⟨ms, hl, rfl⟩)
    · simp [Operation.AsksItself]
    · obtain hn | ⟨xs, hx, -⟩ := hd
      · simp [hn] at hv
      · exact done_of_map hx

/-- A page has the part of the list that was asked for, with one summary for each member. -/
theorem Work.IsLogged.page {limit : Nat} {request : PageRequest}
    {flow : Flow Summary (Except Error (Page Summary))} {log : List Moment} {page : Page Summary}
    (h : Work.IsLogged ⟨.list limit request, flow, log⟩) (hv : flow.value? = some (.ok page)) :
    ∃ s ms, ⟨s, .registry .list, .ok ms⟩ ∈ log ∧ page.total = ms.length ∧
      page.items.map (·.member.id) = (request.slice ms).map (·.id) := by
  obtain ⟨own, threads, hc, hs⟩ := h
  obtain ⟨-, -, hn⟩ | ⟨s, ms, rfl, hj, hr, hd⟩ := course_listing hc
  · exact absurd hv (hn page)
  · refine ⟨s, ms, hs.own.subset (List.mem_singleton_self _), ?_⟩
    obtain hn | ⟨xs, hx, hp⟩ := hd
    · cases hn.symm.trans hv
    · obtain rfl : _ = page := Except.ok.inj (Option.some_inj.1 (hp.symm.trans hv))
      exact ⟨rfl, ids_of_inspects hj hx hr⟩

private theorem divides_pass {plan : Sweep.Plan}
    {flow : Flow Sweep.Outcome (Except Error Sweep.Report)} {log : List Moment}
    (h : Work.IsLogged ⟨.pass plan, flow, log⟩) :
    ∃ own contacts, Work.Divides ⟨.pass plan, flow, log⟩ own contacts := by
  obtain ⟨own, threads, hc, hs⟩ := h
  refine ⟨own, ?_⟩
  obtain ⟨rfl, ho⟩ | ⟨s, ms, rfl, hp, hr, hd⟩ := course_pass hc
  · exact divides_of_nothing hs ho rfl fun hn => .inl ⟨rfl, hn⟩
  · have hl : ⟨.registry .list, .ok ms⟩ ∈ log.map (·.exchange) :=
      List.mem_map_of_mem (hs.own.subset (List.mem_singleton_self _))
    obtain ⟨visited, hv, hj⟩ := List.prefix_map_iff.1 hp
    refine divides_of_threads hs ?_ visit_contacts hj hr (fun h => (hd h).2)
      (.inr ⟨ms, hl, hv.map _, fun h => ?_⟩)
    · simp [Operation.AsksItself]
    · have hlen := congrArg List.length (hj.symm.trans (hd h).1)
      rw [List.length_map, List.length_map] at hlen
      rw [hv.eq_of_length hlen]

/-- An operation that is for one cluster makes one contact. -/
private theorem divides_one {id : String} {j : Job (Except Error k.operation.Result)}
    (h : Flow.Logged (.ofJob j) k.log k.flow) (hj : j.Contacts id k.operation.Stores)
    (hm : k.operation.Meets k.exchanges k.flow.value?.isSome [id]) :
    ∃ own contacts, k.Divides own contacts := by
  obtain ⟨l, hl, hs⟩ := h.ofJob
  have made : Contact.IsMade ⟨id, k.log⟩ k.operation.Stores (∃ b, l = .done b) :=
    isMade_of_says hs hj
  refine ⟨[], [⟨id, k.log⟩], by simp, List.nil_sublist _, by simp, by simp, ?_, hm⟩
  intro t ht
  obtain rfl := List.mem_singleton.1 ht
  refine made.imp fun hv => ?_
  rw [hl] at hv
  cases l with
  | done b => exact ⟨b, rfl⟩
  | ask c next => cases hv

theorem rollCall_isContact {P : Status.Patch → Prop} (id : String) (roll : RollCall) :
    IsContact id P (roll.exchanges id) := by
  cases roll with
  | lost e => exact .lost e (by simp)
  | unreachable m e => exact .unreachable m e (by simp)
  | called m c answer => exact .through m c (by simp [Call.Through])

private theorem asksItself_attempts {x : Submission} (valid : x.IsValid) (first : String)
    (taken : List (String × String)) (answer : Except Error Member) :
    ∀ e ∈ attempts x.registration first taken answer,
      (Operation.register x).AsksItself e.call := by
  induction taken generalizing first with
  | nil => simpa [attempts, Operation.AsksItself] using valid
  | cons t taken ih => simpa [attempts, Operation.AsksItself, valid] using ih t.2

private theorem divides_register {x : Submission} {flow : Flow Unit (Except Error Detail)}
    {log : List Moment} (h : Work.IsLogged ⟨.register x, flow, log⟩) :
    ∃ own contacts, Work.Divides ⟨.register x, flow, log⟩ own contacts := by
  have alone (ha : ∀ e ∈ log.map (·.exchange), (Operation.register x).AsksItself e.call) :
      ∃ own contacts, Work.Divides ⟨.register x, flow, log⟩ own contacts :=
    ⟨log, [], .refl _, .refl _, by simp, fun a hl => ha _ (List.mem_map_of_mem hl), by simp,
      .inl rfl⟩
  obtain ⟨e, hv, rfl, hr⟩ | ⟨n, valid, hn, hp, hr⟩ := enrolled h
  · exact alone (by simp)
  have front (first now : String) (connected : Except Error Client)
      (taken : List (String × String)) (answer : Except Error Member) :
      ∀ e ∈ x.trial first now connected ++ attempts x.registration first taken answer,
        (Operation.register x).AsksItself e.call := by
    simp only [Submission.trial, List.mem_append, List.mem_cons, List.not_mem_nil, or_false]
    rintro e ((rfl | rfl | rfl) | he)
    · trivial
    · trivial
    · exact ⟨valid, first, now, rfl⟩
    · exact asksItself_attempts valid first taken answer e he
  cases n with
  | unreachable first now e =>
    refine alone fun e' he => front first now (.error e) [] (.error e) e' ?_
    exact List.mem_append_left _ (hp.subset he)
  | unstored first now c taken e =>
    exact alone fun e' he => front first now (.ok c) taken _ e' (hp.subset he)
  | stored first now c taken m roll =>
    have before := front first now (.ok c) taken (.ok m)
    rw [Enrollment.exchanges] at hp hr
    obtain hl | ⟨rest, hl⟩ := List.prefix_or_prefix_of_prefix hp (List.prefix_append _ _)
    · exact alone fun e he => before e (hl.subset he)
    · -- the cluster is registered, and what is said from there on is about its nodes
      rw [← hl, List.prefix_append_right_inj] at hp
      obtain ⟨own, talk, rfl, ho, ht⟩ := List.map_eq_append_iff.1 hl.symm
      refine ⟨own, [⟨m.id, talk⟩], ?_, List.sublist_append_left own talk, ?_, ?_, ?_, ?_⟩
      · simpa using List.perm_append_comm
      · simp
      · exact fun a ha => before _ (ho ▸ List.mem_map_of_mem ha)
      · intro t hm
        obtain rfl := List.mem_singleton.1 hm
        refine ⟨_, rollCall_isContact m.id roll, ht ▸ hp, fun hv => ?_⟩
        obtain ⟨result, hv⟩ := Option.isSome_iff_exists.1 hv
        have he := (hr result hv).1
        rw [List.map_append, ho] at he
        exact List.append_cancel_left he
      · have hm : m ∈ (attempts x.registration first taken (.ok m)).filterMap (·.registered?) := by
          rw [registered_attempts]
          exact List.mem_singleton_self m
        refine .inr ⟨m, ?_, rfl⟩
        rw [Work.exchanges, List.map_append, ho, List.filterMap_append, List.filterMap_append]
        exact List.mem_append_left _ (List.mem_append_right _ hm)

private theorem divides_metrics {id : String} {request : Metric.Request}
    {flow : Flow Unit (Except Error (List Metric.Entry))} {log : List Moment}
    (h : Work.IsLogged ⟨.metrics id request, flow, log⟩) :
    ∃ own contacts, Work.Divides ⟨.metrics id request, flow, log⟩ own contacts := by
  have hl : Flow.Logged (Flow.ofJob (metrics id request).run) log flow := h
  obtain ⟨j, -, hj⟩ := hl.ofJob
  refine ⟨log, [], .refl _, .refl _, by simp, fun a ha => ?_, by simp, rfl⟩
  have ha : a.exchange ∈ log.map (·.exchange) := List.mem_map_of_mem ha
  cases hv : request.validate with
  | error e =>
    have he : (metrics id request).run = .done (.error e) := by
      simp only [metrics, hv]
      rfl
    rw [he] at hj
    rw [(Job.says_done_iff.1 hj).1] at ha
    cases ha
  | ok u =>
    rw [metrics_run hv] at hj
    refine hj.asks (P := (Operation.metrics id request).AsksItself) ⟨rfl, fun r => ?_⟩ _ ha
    cases r with
    | error e => trivial
    | ok m =>
      change Job.Asks _ (if m.prometheusUrl.isEmpty = true then _ else _)
      split
      · trivial
      · refine ⟨trivial, fun r => ?_⟩
        cases r with
        | error e => trivial
        | ok monitor =>
          refine (measureAll_asks (fun _ => ?_) request request.names).bind fun _ => trivial
          trivial

/-- All that an operation has said so far divides into what it has said itself and its contacts. -/
theorem Work.IsLogged.divides (h : k.IsLogged) : ∃ own contacts, k.Divides own contacts := by
  obtain ⟨o, flow, log⟩ := k
  cases o with
  | list limit request => exact divides_list h
  | client id => exact divides_one h (connect_contacts id) rfl
  | detail id => exact divides_one h (detail_contacts id) rfl
  | nodes id => exact divides_one h (nodes_contacts id) rfl
  | register x => exact divides_register h
  | metrics id request => exact divides_metrics h
  | deployments id ns request => exact divides_one h (deployments_contacts id ns request) rfl
  | deployment id ns name => exact divides_one h (deployment_contacts id ns name) rfl
  | apply id ns action draft => exact divides_one h (applyDraft_contacts id ns action draft) rfl
  | delete id ns name => exact divides_one h (deleteDeployment_contacts id ns name) rfl
  | pass plan => exact divides_pass h

end MultiCluster.Service
