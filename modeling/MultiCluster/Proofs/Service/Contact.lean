import MultiCluster.Proofs.Flow.Course
import MultiCluster.Proofs.Service.Listing
import MultiCluster.Proofs.Service.Register
import MultiCluster.Service.Query
import MultiCluster.Sweep

/-! How an operation gets at a cluster: it reads the record under an id, has a client built for this
record, and sends all its requests through that client. -/
namespace MultiCluster

variable {α β : Type} {id : String} {P : Status.Patch → Prop}

namespace Call

/-- A change of the status under an id, of a certain kind. -/
def Patches (id : String) (P : Status.Patch → Prop) : Call → Prop
  | .registry (.patch i p) => i = id ∧ P p
  | _ => False

/-- A request that goes through a client, or a change of the status under an id. -/
def Through (c : Client) (id : String) (P : Status.Patch → Prop) : Call → Prop
  | .nodes k => k = c
  | .usage k _ => k = c
  | .version k => k = c
  | .access k => k = c
  | .send k _ => k = c
  | .registry (.patch i p) => i = id ∧ P p
  | _ => False

/-- The client that a question goes through. -/
def client? : Call → Option Client
  | .nodes c => some c
  | .usage c _ => some c
  | .version c => some c
  | .access c => some c
  | .send c _ => some c
  | _ => none

theorem Patches.client? {x : Call} (h : x.Patches id P) : x.client? = none := by
  cases x with
  | registry r => rfl
  | _ => exact h.elim

theorem Through.client? {x : Call} {c k : Client} (h : x.Through c id P)
    (hk : x.client? = some k) : k = c := by
  cases x with
  | nodes d => exact (Option.some_inj.1 hk).symm.trans h
  | usage d n => exact (Option.some_inj.1 hk).symm.trans h
  | version d => exact (Option.some_inj.1 hk).symm.trans h
  | access d => exact (Option.some_inj.1 hk).symm.trans h
  | send d r => exact (Option.some_inj.1 hk).symm.trans h
  | _ => cases hk

theorem Patches.through {x : Call} (h : x.Patches id P) (c : Client) : x.Through c id P := by
  cases x with
  | registry r => cases r <;> exact h
  | _ => exact h.elim

end Call

/-- What is said to get at the cluster under an id: its record is not given, or no client is had for
it, or there is a client for this very record, through which all requests go. Behind that, nothing
is asked but to change the status under the id. -/
inductive IsContact (id : String) (P : Status.Patch → Prop) : List Exchange → Prop where
  | lost (e : Error) {rest : List Exchange} (h : ∀ x ∈ rest, x.call.Patches id P) :
      IsContact id P (⟨.registry (.get id), .error e⟩ :: rest)
  | unreachable (m : Member) (e : Error) {rest : List Exchange}
      (h : ∀ x ∈ rest, x.call.Patches id P) :
      IsContact id P (⟨.registry (.get id), .ok m⟩ :: ⟨.connect m, .error e⟩ :: rest)
  | through (m : Member) (c : Client) {rest : List Exchange}
      (h : ∀ x ∈ rest, x.call.Through c id P) :
      IsContact id P (⟨.registry (.get id), .ok m⟩ :: ⟨.connect m, .ok c⟩ :: rest)

/-- Whether an exchange is the building of a client, if it comes to that. -/
def Exchange.isConnection : Exchange → Bool
  | ⟨.connect _, _⟩ => true
  | _ => false

/-- Whether an exchange is the reading of a record, if it comes to that. -/
def Exchange.isLookup : Exchange → Bool
  | ⟨.registry (.get _), _⟩ => true
  | _ => false

/-- Whether a record was read. -/
def Exchange.isFound : Exchange → Bool
  | ⟨.registry (.get _), .ok _⟩ => true
  | _ => false

theorem Call.Through.not_read {c : Client} {x : Exchange} (h : x.call.Through c id P) :
    x.isLookup = false ∧ x.isConnection = false ∧ x.isFound = false := by
  obtain ⟨x, r⟩ := x
  cases x with
  | registry y =>
    cases y with
    | patch i p => exact ⟨rfl, rfl, rfl⟩
    | _ => exact h.elim
  | freshId => exact h.elim
  | connect m => exact h.elim
  | monitor endpoint => exact h.elim
  | query monitor range => exact h.elim
  | _ => exact ⟨rfl, rfl, rfl⟩

private theorem reads_through {c : Client} {rest : List Exchange}
    (h : ∀ x ∈ rest, x.call.Through c id P) : rest.countP (·.isLookup) = 0 ∧
      rest.countP (·.isConnection) = 0 ∧ rest.any (·.isFound) = false := by
  refine ⟨List.countP_eq_zero.2 ?_, List.countP_eq_zero.2 ?_, List.any_eq_false.2 ?_⟩
  · intro x hx
    simp [(h x hx).not_read.1]
  · intro x hx
    simp [(h x hx).not_read.2.1]
  · intro x hx
    simp [(h x hx).not_read.2.2]

/-- A contact takes one look at the record, and one client just when there is a record. -/
theorem IsContact.counts {es : List Exchange} (h : IsContact id P es) :
    es.countP (·.isLookup) = 1 ∧ es.countP (·.isConnection) = (es.any (·.isFound)).toNat := by
  cases h with
  | lost e hr =>
    obtain ⟨hl, hc, hf⟩ := reads_through fun x hx => (hr x hx).through ⟨0⟩
    simp only [List.countP_cons, List.any_cons, hl, hc, hf]
    exact ⟨rfl, rfl⟩
  | unreachable m e hr =>
    obtain ⟨hl, hc, hf⟩ := reads_through fun x hx => (hr x hx).through ⟨0⟩
    simp only [List.countP_cons, List.any_cons, hl, hc, hf]
    exact ⟨rfl, rfl⟩
  | through m c hr =>
    obtain ⟨hl, hc, hf⟩ := reads_through hr
    simp only [List.countP_cons, List.any_cons, hl, hc, hf]
    exact ⟨rfl, rfl⟩

/-- On the way there are no more clients than records. -/
theorem IsContact.connections_le {es fs : List Exchange} (h : IsContact id P es) (hp : fs <+: es) :
    fs.countP (·.isConnection) ≤ (fs.any (·.isFound)).toNat := by
  have most := hp.sublist.countP_le (p := (·.isConnection))
  rw [h.counts.2] at most
  have found {m : Member} {rest : List Exchange} (hf : fs <+: ⟨.registry (.get id), .ok m⟩ :: rest)
      (hm : fs.countP (·.isConnection) ≤ 1) :
      fs.countP (·.isConnection) ≤ (fs.any (·.isFound)).toNat := by
    obtain rfl | ⟨gs, rfl, -⟩ := List.prefix_cons_iff.1 hf
    · exact Nat.le_refl 0
    · exact hm
  cases h with
  | @lost e rest h =>
    have none : (⟨.registry (.get id), .error e⟩ :: rest : List Exchange).any (·.isFound) = false :=
      (reads_through fun x hx => (h x hx).through ⟨0⟩).2.2
    rw [none] at most
    exact Nat.le_trans most (Nat.zero_le _)
  | unreachable m e h => exact found hp most
  | through m c h => exact found hp most

/-- What goes through a client comes behind the building of this very client for the record. -/
theorem IsContact.client {es fs : List Exchange} (h : IsContact id P es) (hp : fs <+: es)
    {e : Exchange} (he : e ∈ fs) {c : Client} (hc : e.call.client? = some c) :
    ∃ m rest, fs = ⟨.registry (.get id), .ok m⟩ :: ⟨.connect m, .ok c⟩ :: rest := by
  cases h with
  | lost f h =>
    obtain rfl | hr := List.mem_cons.1 (hp.subset he)
    · cases hc
    · cases (h e hr).client?.symm.trans hc
  | unreachable m f h =>
    obtain rfl | hr := List.mem_cons.1 (hp.subset he)
    · cases hc
    obtain rfl | hr := List.mem_cons.1 hr
    · cases hc
    · cases (h e hr).client?.symm.trans hc
  | through m k h =>
    obtain rfl | ⟨gs, rfl, hg⟩ := List.prefix_cons_iff.1 hp
    · cases he
    obtain rfl | he := List.mem_cons.1 he
    · cases hc
    obtain rfl | ⟨rest, rfl, hr⟩ := List.prefix_cons_iff.1 hg
    · cases he
    obtain rfl | he := List.mem_cons.1 he
    · cases hc
    obtain rfl := (h e (hr.subset he)).client? hc
    exact ⟨m, rest, rfl⟩

/-- All that is asked in a contact. -/
theorem IsContact.asks {es : List Exchange} (h : IsContact id P es) : ∀ e ∈ es,
    e.call = .registry (.get id) ∨ (∃ m, e.call = .connect m) ∨ ∃ c, e.call.Through c id P := by
  cases h with
  | lost e h =>
    rintro x (_ | ⟨_, hx⟩)
    · exact .inl rfl
    · exact .inr (.inr ⟨⟨0⟩, (h x hx).through ⟨0⟩⟩)
  | unreachable m e h =>
    rintro x (_ | ⟨_, _ | ⟨_, hx⟩⟩)
    · exact .inl rfl
    · exact .inr (.inl ⟨m, rfl⟩)
    · exact .inr (.inr ⟨⟨0⟩, (h x hx).through ⟨0⟩⟩)
  | through m c h =>
    rintro x (_ | ⟨_, _ | ⟨_, hx⟩⟩)
    · exact .inl rfl
    · exact .inr (.inl ⟨m, rfl⟩)
    · exact .inr (.inr ⟨c, h x hx⟩)

namespace Job

theorem Asks.mono {P Q : Call → Prop} {j : Job α} (h : j.Asks P) (hPQ : ∀ c, P c → Q c) :
    j.Asks Q := by
  induction j with
  | done a => trivial
  | ask c next ih => exact ⟨hPQ c h.1, fun r => ih r (h.2 r)⟩

/-- A program that gets at the cluster under an id in this way. -/
def Contacts (id : String) (P : Status.Patch → Prop) (j : Job α) : Prop :=
  ∃ next, j = .ask (.registry (.get id)) next ∧
    (∀ e, (next (.error e)).Asks (Call.Patches id P)) ∧
    ∀ m, ∃ go, next (.ok m) = .ask (.connect m) go ∧
      (∀ e, (go (.error e)).Asks (Call.Patches id P)) ∧
      ∀ c, (go (.ok c)).Asks (Call.Through c id P)

theorem Contacts.value? {j : Job α} (h : j.Contacts id P) : j.value? = none := by
  obtain ⟨next, rfl, -⟩ := h
  rfl

/-- What such a program says makes a contact. -/
theorem Says.isContact {j : Job α} {es : List Exchange} {a : α} (h : j.Says es (.done a))
    (hj : j.Contacts id P) : IsContact id P es := by
  obtain ⟨next, rfl, hl, hf⟩ := hj
  obtain ⟨given, fs, rfl, hg⟩ := says_ask_done_iff.1 h
  cases given with
  | error e => exact .lost e (hg.asks (hl e))
  | ok m =>
    obtain ⟨go, hgo, hu, ht⟩ := hf m
    rw [hgo] at hg
    obtain ⟨connected, gs, rfl, hc⟩ := says_ask_done_iff.1 hg
    cases connected with
    | error e => exact .unreachable m e (hc.asks (hu e))
    | ok c => exact .through m c (hc.asks (ht c))

end Job

namespace Service

/-- The patches that store a health. -/
def IsHealth (p : Status.Patch) : Prop := ∃ h, p = .ofHealth h

/-- The patches that store totals. -/
def IsTotals (p : Status.Patch) : Prop := ∃ t : Totals, p = t.patch

private theorem attempt_contacts {f : Option (Client × Observation) → Job β}
    (hn : (f none).Asks (Call.Patches id P))
    (hs : ∀ c o, (f (some (c, o))).Asks (Call.Through c id P)) :
    ((attempt id).bind f).Contacts id P := by
  refine ⟨_, rfl, fun e => hn, fun m => ⟨_, rfl, fun e => hn, fun c => ⟨rfl, fun r => ?_⟩⟩⟩
  cases r with
  | error e => exact hn.mono fun _ h => h.through c
  | ok nodes =>
    simp only [Job.bind_assoc, Job.done_bind]
    exact (observeNodes_asks (fun _ => rfl) _ nodes).bind fun o => hs c o

theorem inspect_contacts (m : Member) : (inspect m).Contacts m.id IsHealth := by
  rw [inspect_eq, summarize_eq, Job.bind_assoc]
  refine attempt_contacts ?_ fun c o => ?_
  · exact ⟨⟨rfl, _, rfl⟩, fun _ => trivial⟩
  · exact ⟨rfl, fun v => ⟨⟨rfl, _, rfl⟩, fun _ => trivial⟩⟩

theorem visit_contacts (m : Member) : (Sweep.visit m).Contacts m.id IsTotals := by
  rw [visit_eq]
  refine attempt_contacts trivial fun c o => ?_
  refine ⟨⟨rfl, _, rfl⟩, fun r => ?_⟩
  cases r <;> trivial

/-- An error of the registry is the end of it. -/
theorem get_run (id : String) (f : Member → Action α) :
    (Action.get id >>= f).run = .ask (.registry (.get id)) fun
      | .error e => .done (.error e)
      | .ok m => (f m).run := by
  apply congrArg (Job.ask (.registry (.get id)))
  funext r
  cases r <;> rfl

private theorem connect_run (m : Member) (f : Client → Action α) :
    (Action.connect m >>= f).run = .ask (.connect m) fun
      | .error e => .done (.error e)
      | .ok c => (f c).run := by
  apply congrArg (Job.ask (.connect m))
  funext r
  cases r <;> rfl

/-- What is done with the record under an id and a client for it. -/
private theorem record_contacts {f : Member → Client → Action α}
    (hf : ∀ m c, (f m c).run.Asks (Call.Through c id P)) :
    (Action.get id >>= fun m => Action.connect m >>= f m).run.Contacts id P := by
  rw [get_run]
  refine ⟨_, rfl, fun _ => trivial, fun m => ?_⟩
  exact ⟨_, connect_run m (f m), fun _ => trivial, hf m⟩

private theorem client_contacts {f : Client → Action α}
    (hf : ∀ c, (f c).run.Asks (Call.Through c id P)) :
    (Action.client id >>= f).run.Contacts id P := by
  simp only [Action.client, bind_assoc]
  exact record_contacts fun _ => hf

theorem connect_contacts (id : String) : (Action.client id).run.Contacts id P := by
  rw [← bind_pure (Action.client id)]
  exact client_contacts fun _ => trivial

theorem nodes_contacts (id : String) : (nodes id).run.Contacts id P :=
  client_contacts fun _ => ⟨rfl, fun _ => trivial⟩

theorem detail_contacts (id : String) : (detail id).run.Contacts id P := by
  refine record_contacts fun m c => ⟨rfl, fun r => ?_⟩
  cases r <;> trivial

private theorem exchange_asks (c : Client) (request : Except Error Kube.Request)
    (decoder : Json.Decoder α) : (exchange c request decoder).run.Asks (Call.Through c id P) := by
  cases request with
  | error e => trivial
  | ok r => exact ⟨rfl, fun _ => trivial⟩

/-- What is done with a client to which requests can be sent. -/
private theorem reach_contacts {f : Client → Action α}
    (hf : ∀ c, (f c).run.Asks (Call.Through c id P)) :
    (reach id >>= f).run.Contacts id P := by
  simp only [reach, bind_assoc, pure_bind]
  refine client_contacts fun c => ⟨rfl, fun r => ?_⟩
  cases r with
  | error e => trivial
  | ok u => exact hf c

theorem deployments_contacts (id ns : String) (page : PageRequest) :
    (deployments id ns page).run.Contacts id P := by
  refine reach_contacts fun c => (exchange_asks c _ _).bind fun r => ?_
  cases r <;> trivial

theorem deployment_contacts (id ns name : String) :
    (deployment id ns name).run.Contacts id P :=
  reach_contacts fun c => exchange_asks c _ _

theorem applyDraft_contacts (id ns : String) (action : Deployment.Action) (d : Deployment.Draft) :
    (applyDraft id ns action d).run.Contacts id P :=
  reach_contacts fun c => exchange_asks c _ _

theorem deleteDeployment_contacts (id ns name : String) :
    (deleteDeployment id ns name).run.Contacts id P :=
  reach_contacts fun c => exchange_asks c _ _

end Service
end MultiCluster
