import MultiCluster.Proofs.Service.Load

/-! What holds of the service under load at any time: each operation is on its way with what it has
said, all of it was answered by the store that there was then, every connection has given a client
of its own, and every member is one that was there at first or was registered since. -/
namespace MultiCluster

/-- The client that an exchange has given. -/
def Exchange.given? : Exchange → Option Client
  | ⟨.connect _, .ok c⟩ => some c
  | _ => none

/-- The cluster that an exchange has registered. -/
def Exchange.registered? : Exchange → Option Member
  | ⟨.registry (.create ..), .ok m⟩ => some m
  | _ => none

theorem Exchange.given?_eq_some_iff {e : Exchange} {c : Client} :
    e.given? = some c ↔ ∃ m, e = ⟨.connect m, .ok c⟩ := by
  constructor
  · intro h
    unfold Exchange.given? at h
    split at h
    · next m c' => exact ⟨m, by rw [Option.some_inj.1 h]⟩
    · cases h
  · rintro ⟨m, rfl⟩
    rfl

theorem Exchange.registered?_eq_some_iff {e : Exchange} {m : Member} :
    e.registered? = some m ↔ ∃ id g, e = ⟨.registry (.create id g), .ok m⟩ := by
  constructor
  · intro h
    unfold Exchange.registered? at h
    split at h
    · next id g m' => exact ⟨id, g, by rw [Option.some_inj.1 h]⟩
    · cases h
  · rintro ⟨id, g, rfl⟩
    rfl

namespace Moment

/-- The exchange was had with the store of the moment, and what it left has grown into another. -/
def Leads (a : Moment) (t : Store) : Prop := ∃ s, a.store.Answers a.exchange s ∧ s.Grows t

variable {a : Moment} {t u : Store}

theorem Leads.grows (h : a.Leads t) : a.store.Grows t := by
  obtain ⟨s, ha, hg⟩ := h
  exact ha.grows.trans hg

theorem Leads.trans (h : a.Leads t) (hu : t.Grows u) : a.Leads u := by
  obtain ⟨s, ha, hg⟩ := h
  exact ⟨s, ha, hg.trans hu⟩

end Moment

namespace Surroundings

/-- Surroundings in which clients are new, and members are registered once and stay. -/
structure Sound (s : Store) (w : Surroundings) : Prop where
  grows : s.Grows w.store
  clients : ∀ c ∈ w.past.filterMap (·.given?), c.number < w.past.length
  clients_nodup : (w.past.filterMap (·.given?)).Nodup
  members : ∀ m ∈ w.past.filterMap (·.registered?),
    ∃ status, w.store.get? m.id = some { m with status }
  members_nodup : ((w.past.filterMap (·.registered?)).map (·.id)).Nodup
  /-- A member was there at first or is one of those registered. -/
  origin : ∀ id m, w.store.get? id = some m → (∃ n status, s.get? id = some n ∧
    m = { n with status }) ∨ ∃ n ∈ w.past.filterMap (·.registered?), ∃ status, m = { n with status }

theorem Sound.start (s : Store) : Sound s ⟨s, []⟩ where
  grows := .refl s
  clients := by simp
  clients_nodup := by simp
  members := by simp
  members_nodup := by simp
  origin id m h := .inl ⟨m, m.status, h, rfl⟩

end Surroundings

/-- The exchange that comes of a question, with the store that there is. -/
abbrev Turn.moment (t : Turn) (c : Call) (w : Surroundings) : Moment :=
  ⟨w.store, c, (t.serve c w).1⟩

theorem Turn.answers (t : Turn) (c : Call) (w : Surroundings) :
    w.store.Answers ⟨c, (t.serve c w).1⟩ (t.serve c w).2.store := ⟨t, t.answer_store c w⟩

/-- Whether a connection gives a client with this number, if it gives one. -/
def Turn.IsNumbered (n : Nat) (t : Turn) : Prop :=
  ∀ m c, t.outside (.connect m) = .ok c → c.number = n

theorem Turn.isNumbered_numbered (t : Turn) (n : Nat) : (t.numbered n).IsNumbered n := by
  intro m c h
  have h : (t.outside (.connect m)).map (fun _ => (⟨n⟩ : Client)) = .ok c := h
  cases ho : t.outside (.connect m) with
  | error e =>
    rw [ho] at h
    cases h
  | ok k =>
    rw [ho] at h
    obtain rfl := Except.ok.inj h
    rfl

theorem Turn.IsNumbered.given? {t : Turn} {n : Nat} {c : Call} {w : Surroundings} {k : Client}
    (ht : t.IsNumbered n) (h : Exchange.given? ⟨c, (t.serve c w).1⟩ = some k) : k.number = n := by
  obtain ⟨m, he⟩ := Exchange.given?_eq_some_iff.1 h
  obtain ⟨rfl, hr⟩ := Exchange.mk.inj he
  exact ht m k (eq_of_heq hr)

namespace Store

variable {s t : Store} {e : Exchange} {id : String} {m : Member}

/-- What an exchange has registered is new, and it is there afterwards. -/
theorem Answers.registered (h : s.Answers e t) (he : e.registered? = some m) : s.Gains m t := by
  obtain ⟨id, g, rfl⟩ := Exchange.registered?_eq_some_iff.1 he
  obtain ⟨now, hr, hs, rfl⟩ | ⟨⟨f, hf⟩, -⟩ := h.create
  · obtain rfl := Except.ok.inj hr
    exact gains_put hs
  · cases hf

/-- A member that is there after an exchange was there before or is registered by it. -/
theorem Answers.origin (h : s.Answers e t) (hm : t.get? id = some m) :
    (∃ n status, s.get? id = some n ∧ m = { n with status }) ∨ e.registered? = some m := by
  have same (ht : t = s) : ∃ n status, s.get? id = some n ∧ m = { n with status } :=
    ⟨m, m.status, ht ▸ hm, rfl⟩
  obtain ⟨c, r⟩ := e
  cases c with
  | registry c =>
    cases c with
    | list => exact .inl (same h.list.1)
    | get i => exact .inl (same h.get.1)
    | create i g =>
      obtain ⟨now, rfl, hs, rfl⟩ | ⟨-, ht⟩ := h.create
      · rw [get?_put] at hm
        split at hm
        · exact .inr (congrArg some (Option.some_inj.1 hm))
        · exact .inl ⟨m, m.status, hm, rfl⟩
      · exact .inl (same ht)
    | patch i p =>
      obtain ⟨-, rfl⟩ | ⟨-, ht⟩ := h.patch
      · rw [get?_patch, Option.map_eq_some_iff] at hm
        obtain ⟨n, hn, rfl⟩ := hm
        by_cases hi : n.id = i
        · exact .inl ⟨n, p.apply n.status, hn, by rw [← hi, patchMember_self]⟩
        · exact .inl ⟨n, n.status, hn, patchMember_of_ne p hi⟩
      · exact .inl (same ht)
  | _ => exact .inl (same (h.outside fun _ => Call.noConfusion))

end Store

private theorem nodup_concat {α κ : Type} {f : α → Option κ} {xs : List α} {a : α}
    (h : (xs.filterMap f).Nodup) (ha : ∀ k, f a = some k → k ∉ xs.filterMap f) :
    ((xs ++ [a]).filterMap f).Nodup := by
  rw [List.filterMap_append]
  cases hf : f a with
  | none => simpa [hf] using h
  | some k =>
    have hk := ha k hf
    simp only [List.filterMap_cons, hf, List.filterMap_nil]
    exact List.nodup_append.2 ⟨h, List.nodup_singleton k, fun x hx y hy => by
      rintro rfl
      exact hk (List.mem_singleton.1 hy ▸ hx)⟩

/-- Surroundings stay sound when a question is answered. -/
theorem Surroundings.Sound.serve {s : Store} {w : Surroundings} (h : w.Sound s) {t : Turn}
    (ht : t.IsNumbered w.past.length) (c : Call) : (t.serve c w).2.Sound s := by
  have ha := t.answers c w
  have hn := @Turn.IsNumbered.given? t w.past.length c w
  have hp := t.past_serve c w
  generalize t.serve c w = out at ha hn hp ⊢
  obtain ⟨r, v⟩ := out
  have hg := ha.grows
  constructor
  case grows => exact h.grows.trans hg
  case clients =>
    intro k hk
    rw [hp, List.filterMap_append, List.mem_append] at hk
    rw [hp, List.length_append]
    obtain hk | hk := hk
    · exact Nat.lt_add_right 1 (h.clients k hk)
    · rw [hn ht (by simpa using hk)]
      exact Nat.lt_succ_self _
  case clients_nodup =>
    rw [hp]
    apply nodup_concat h.clients_nodup
    intro k hk hm
    have hlt := h.clients k hm
    rw [hn ht hk] at hlt
    exact Nat.lt_irrefl _ hlt
  case members =>
    intro m hm
    rw [hp, List.filterMap_append, List.mem_append] at hm
    obtain hm | hm := hm
    · obtain ⟨status, hs⟩ := h.members m hm
      obtain ⟨status', hs'⟩ := hg _ _ hs
      exact ⟨status', hs'⟩
    · exact ⟨m.status, (ha.registered (by simpa using hm)).held⟩
  case members_nodup =>
    -- an id that has been obtained is in use, so that no other registration gets it
    rw [hp, List.map_filterMap]
    apply nodup_concat (by simpa only [List.map_filterMap] using h.members_nodup)
    intro id hid hm
    obtain ⟨m, hr, rfl⟩ := Option.map_eq_some_iff.1 hid
    rw [← List.map_filterMap] at hm
    obtain ⟨n, hn, he⟩ := List.mem_map.1 hm
    obtain ⟨status, hs⟩ := h.members n hn
    rw [he, (ha.registered hr).unused] at hs
    cases hs
  case origin =>
    intro id m hm
    rw [hp]
    obtain ⟨n, status, hn, rfl⟩ | hr := ha.origin hm
    · obtain ⟨n', status', hn', rfl⟩ | ⟨n', hn', status', rfl⟩ := h.origin id n hn
      · exact .inl ⟨n', status, hn', rfl⟩
      · refine .inr ⟨n', ?_, status, rfl⟩
        rw [List.filterMap_append]
        exact List.mem_append_left _ hn'
    · refine .inr ⟨m, ?_, m.status, rfl⟩
      rw [List.filterMap_append]
      exact List.mem_append_right _ (by simpa using hr)

namespace Service

/-- What has been said by an operation. -/
def Work.exchanges (k : Work) : List Exchange := k.log.map (·.exchange)

/-- Whether an operation has come this far with what it has said. -/
def Work.IsLogged (k : Work) : Prop := Flow.Logged k.operation.program k.log k.flow

/-- The operation with one more exchange, and what is left of it. -/
def Work.heard (k : Work) (a : Moment)
    (flow : Flow k.operation.Part (Except Error k.operation.Result)) : Work :=
  ⟨k.operation, flow, k.log ++ [a]⟩

theorem Work.exchanges_heard (k : Work) (a : Moment)
    (flow : Flow k.operation.Part (Except Error k.operation.Result)) :
    (k.heard a flow).exchanges = k.exchanges ++ [a.exchange] := List.map_append

/-- A move of the surroundings is one more exchange, or nothing waits for an answer. -/
theorem Work.IsLogged.turn_cases {k : Work} (h : k.IsLogged) (t : Turn) (w : Surroundings) :
    k.turn t w = (k, w) ∨ ∃ c flow, (k.heard (t.moment c w) flow).IsLogged ∧
      k.turn t w = (k.heard (t.moment c w) flow, (t.serve c w).2) := by
  have hl := Flow.Logged.turn h t w
  rcases ht : k.flow.turn t w with ⟨flow, v⟩
  rw [ht] at hl
  simp only [Work.turn, ht]
  obtain he | ⟨c, rfl, hl⟩ := hl
  · obtain ⟨rfl, rfl⟩ := Prod.mk.inj he
    exact .inl (by simp)
  · exact .inr ⟨c, flow, hl, by simp [Work.heard]⟩

namespace Load

/-- What one event comes to: nothing, an operation that begins, or one more exchange, which is the
last one said by the operation that is answered. -/
inductive Moves (x : Load) : Event → Load → Prop where
  | still (e : Event) : Moves x e x
  | start (o : Operation) : Moves x (.start o) { x with works := x.works ++ [.start o] }
  | answer {before behind : List Work} {k : Work} (works : x.works = before ++ k :: behind)
      (move t : Turn) (ht : t.IsNumbered x.surroundings.past.length) (c : Call)
      (flow : Flow k.operation.Part (Except Error k.operation.Result))
      (logged : (k.heard (t.moment c x.surroundings) flow).IsLogged) :
      Moves x (.answer before.length move)
        ⟨before ++ k.heard (t.moment c x.surroundings) flow :: behind, (t.serve c x.surroundings).2⟩

private theorem works_split {x : Load} {i : Nat} {k : Work} (h : x.works[i]? = some k) :
    ∃ before behind, before.length = i ∧ x.works = before ++ k :: behind ∧
      ∀ k', x.works.set i k' = before ++ k' :: behind := by
  obtain ⟨hi, rfl⟩ := List.getElem?_eq_some_iff.1 h
  refine ⟨x.works.take i, x.works.drop (i + 1), ?_, ?_, fun k' => ?_⟩
  · exact List.length_take_of_le (Nat.le_of_lt hi)
  · rw [List.getElem_cons_drop, List.take_append_drop]
  · rw [List.set_eq_take_append_cons_drop, if_pos hi]

/-- An event moves the load once. -/
theorem moves_step {x : Load} (h : ∀ k ∈ x.works, k.IsLogged) (e : Event) :
    x.Moves e (x.step e) := by
  cases e with
  | start o => exact .start o
  | answer i t =>
    cases hi : x.works[i]? with
    | none =>
      simp only [step, hi]
      exact .still _
    | some k =>
      obtain ⟨before, behind, rfl, hx, hset⟩ := works_split hi
      obtain ht | ⟨c, flow, hl, ht⟩ := (h k (List.mem_of_getElem? hi)).turn_cases
        (t.numbered x.surroundings.past.length) x.surroundings
      · simp only [step, hi, ht, hset, ← hx]
        exact .still _
      · simp only [step, hi, ht, hset]
        exact .answer hx t _ (t.isNumbered_numbered _) c flow hl

/-- A load as it may come about: what all its operations have said, in some order, is what was said
in its surroundings, and later answers were given by a store that had grown out of earlier ones. -/
structure Sound (s : Store) (x : Load) : Prop where
  logged : ∀ k ∈ x.works, k.IsLogged
  surroundings : x.surroundings.Sound s
  said : (x.works.flatMap (·.exchanges)).Perm x.surroundings.past
  answered : ∀ k ∈ x.works, ∀ a ∈ k.log, s.Grows a.store ∧ a.Leads x.store
  ordered : ∀ k ∈ x.works, k.log.Pairwise fun a b => a.Leads b.store

theorem Sound.mem_past {s : Store} {x : Load} (h : x.Sound s) {k : Work} (hk : k ∈ x.works)
    {e : Exchange} (he : e ∈ k.exchanges) : e ∈ x.surroundings.past :=
  h.said.subset (List.mem_flatMap.2 ⟨k, hk, he⟩)

theorem sound_idle (s : Store) : (idle s).Sound s where
  logged := by simp [idle]
  surroundings := .start s
  said := .nil
  answered := by simp [idle]
  ordered := by simp [idle]

private theorem isLogged_start (o : Operation) : (Work.start o).IsLogged := by
  have hs : o.program.settle = o.program := by
    cases o with
    | list limit request => rfl
    | pass plan => rfl
    | _ => exact Flow.settle_ofJob _
  have hl := Flow.logged_start o.program
  rwa [hs] at hl

/-- What holds of all operations still does when one of them has gone on. -/
private theorem forall_replaced {P : Work → Prop} {works before behind : List Work} {k k' : Work}
    (hw : works = before ++ k :: behind) (h : ∀ j ∈ works, P j) (hk : P k') :
    ∀ j ∈ before ++ k' :: behind, P j := by
  rw [hw] at h
  intro j hj
  rw [List.mem_append, List.mem_cons] at hj
  obtain hj | rfl | hj := hj
  · exact h j (List.mem_append_left _ hj)
  · exact hk
  · exact h j (List.mem_append_right _ (List.mem_cons_of_mem _ hj))

private theorem perm_said {works before behind : List Work} {k : Work} {past : List Exchange}
    (hw : works = before ++ k :: behind) (h : (works.flatMap (·.exchanges)).Perm past) (a : Moment)
    (flow : Flow k.operation.Part (Except Error k.operation.Result)) :
    ((before ++ k.heard a flow :: behind).flatMap (·.exchanges)).Perm
      (past ++ [a.exchange]) := by
  simp only [hw, List.flatMap_append, List.flatMap_cons] at h
  simp only [List.flatMap_append, List.flatMap_cons, Work.exchanges_heard]
  rw [← List.append_assoc] at h
  rw [List.append_assoc k.exchanges, ← List.append_assoc]
  exact (List.perm_middle.trans (h.cons _)).trans (List.perm_append_singleton _ _).symm

private theorem Sound.started {s : Store} {x : Load} (h : x.Sound s) (o : Operation) :
    Sound s { x with works := x.works ++ [.start o] } := by
  have hw {P : Work → Prop} (hx : ∀ k ∈ x.works, P k) (ho : P (.start o)) :
      ∀ k ∈ x.works ++ [.start o], P k := by
    intro k hk
    obtain hk | hk := List.mem_append.1 hk
    · exact hx k hk
    · exact List.mem_singleton.1 hk ▸ ho
  constructor
  case logged => exact hw h.logged (isLogged_start o)
  case surroundings => exact h.surroundings
  case said => simpa [Work.start, Work.exchanges] using h.said
  case answered => exact hw h.answered (by simp [Work.start])
  case ordered => exact hw h.ordered .nil

/-- A load that moves stays sound, and its store grows. -/
theorem Sound.moves {s : Store} {x y : Load} {e : Event} (h : x.Sound s) (hm : x.Moves e y) :
    y.Sound s ∧ x.store.Grows y.store := by
  cases hm with
  | still e => exact ⟨h, .refl _⟩
  | start o => exact ⟨h.started o, .refl _⟩
  | @answer before behind k works move t ht c flow logged =>
    have hg : x.store.Grows (t.serve c x.surroundings).2.store := (t.answers c _).grows
    have hk : k ∈ x.works := works ▸ List.mem_append_right before (List.mem_cons_self ..)
    refine ⟨?_, hg⟩
    constructor
    case logged => exact forall_replaced works h.logged logged
    case surroundings => exact h.surroundings.serve ht c
    case said => exact perm_said works h.said _ flow
    case answered =>
      have before (j) (hj : j ∈ x.works) (a) (ha : a ∈ j.log) :
          s.Grows a.store ∧ a.Leads (t.serve c x.surroundings).2.store :=
        ⟨(h.answered j hj a ha).1, (h.answered j hj a ha).2.trans hg⟩
      apply forall_replaced works before
      intro a ha
      obtain ha | ha := List.mem_append.1 ha
      · exact before k hk a ha
      · obtain rfl := List.mem_singleton.1 ha
        exact ⟨h.surroundings.grows, _, t.answers c x.surroundings, .refl _⟩
    case ordered =>
      apply forall_replaced works h.ordered
      refine List.pairwise_append.2 ⟨h.ordered k hk, List.pairwise_singleton _ _, ?_⟩
      intro a ha b hb
      obtain rfl := List.mem_singleton.1 hb
      exact (h.answered k hk a ha).2

/-- Every load that comes about is sound, and what is registered stays. -/
theorem Sound.run {s : Store} {x : Load} (h : x.Sound s) (events : List Event) :
    (x.run events).Sound s ∧ x.store.Grows (x.run events).store := by
  induction events generalizing x with
  | nil => exact ⟨h, .refl _⟩
  | cons e events ih =>
    obtain ⟨hs, hg⟩ := h.moves (moves_step h.logged e)
    obtain ⟨hr, hg'⟩ := ih hs
    exact ⟨hr, hg.trans hg'⟩

end Load
end Service
end MultiCluster
