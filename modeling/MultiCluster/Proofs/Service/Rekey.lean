import MultiCluster.Proofs.Flow.Rekey
import MultiCluster.Proofs.Service.Listing
import MultiCluster.Proofs.Service.Measure
import MultiCluster.Service.Register

/-! What the service does when the clusters have other kubeconfigs: the same, but for the kubeconfigs
in what it asks and keeps. -/
namespace MultiCluster

variable {α α' β γ : Type} {key : String → String}

/-- Results that go together: the same error, or values that do. -/
inductive Alike (R : α → α' → Prop) : Except Error α → Except Error α' → Prop where
  | error (e : Error) : Alike R (.error e) (.error e)
  | ok {a : α} {a' : α'} (h : R a a') : Alike R (.ok a) (.ok a')

theorem alike_eq (r : Except Error α) : Alike Eq r r := by
  cases r with
  | error e => exact .error e
  | ok a => exact .ok rfl

theorem Job.Matches.alike {j j' : Job (Except Error α)} (h : j.Matches key Eq j') :
    j.Matches key (Alike Eq) j' := by
  refine h.mono ?_
  rintro r _ rfl
  exact alike_eq r

namespace Action

/-- Whether an action asks what the other one asks with other kubeconfigs, and fails with the same
error or yields a value that goes with the other one. -/
def Matches (key : String → String) (R : α → α' → Prop) (x : Action α) (x' : Action α') : Prop :=
  x.run.Matches key (Alike R) x'.run

variable {R : α → α' → Prop}

theorem Matches.bind {S : β → γ → Prop} {x : Action α} {x' : Action α'} {f : α → Action β}
    {f' : α' → Action γ} (h : x.Matches key R x') (hf : ∀ a a', R a a' → (f a).Matches key S (f' a')) :
    (x >>= f).Matches key S (x' >>= f') := by
  refine Job.Matches.bind h fun r r' hr => ?_
  cases hr with
  | error e => exact .done (.error e)
  | ok h => exact hf _ _ h

theorem matches_pure {a : α} {a' : α'} (h : R a a') :
    Matches key R (pure a : Action α) (pure a' : Action α') :=
  .done (.ok h)

theorem matches_ofExcept {r : Except Error α} {r' : Except Error α'} (h : Alike R r r') :
    Matches key R (ofExcept r) (ofExcept r') :=
  .done h

theorem matches_lift {j : Job α} {j' : Job α'} (h : j.Matches key R j') :
    Matches key R (ExceptT.lift j : Action α) (ExceptT.lift j' : Action α') :=
  Job.Matches.bind h fun _ _ h => .done (.ok h)

/-- An action that asks for nothing with a kubeconfig in it is matched by itself. -/
theorem matches_of_asks {x : Action α} (h : x.run.Asks Call.IsOpen) : x.Matches key Eq x :=
  h.matches.alike

theorem matches_get (id : String) :
    (get id).Matches key (fun m m' => m' = m.rekey key) (get id) := by
  refine .ask (.registry (.get id)) fun r => .done ?_
  cases r with
  | error e => exact .error e
  | ok m => exact .ok rfl

theorem matches_connect (m : Member) : (connect m).Matches key Eq (connect (m.rekey key)) :=
  .ask (.connect m) fun r => .done (alike_eq r)

theorem matches_client (id : String) : (client id).Matches key Eq (client id) := by
  refine (matches_get id).bind ?_
  rintro m _ rfl
  exact matches_connect m

theorem matches_nodes (c : Client) : (nodes c).Matches key Eq (nodes c) :=
  matches_of_asks ⟨trivial, fun _ => trivial⟩

end Action

/-- The details with another kubeconfig. -/
def Detail.rekey (key : String → String) (d : Detail) : Detail :=
  { d with member := d.member.rekey key }

theorem Detail.toJson_rekey (d : Detail) : (d.rekey key).toJson = d.toJson := rfl

/-- The summary with another kubeconfig. -/
def Summary.rekey (key : String → String) (s : Summary) : Summary :=
  { s with member := s.member.rekey key }

theorem Summary.toJson_rekey (s : Summary) : (s.rekey key).toJson = s.toJson := rfl

namespace Service

theorem matches_detail (id : String) :
    (detail id).Matches key (fun d d' => d' = d.rekey key) (detail id) := by
  refine (Action.matches_get id).bind ?_
  rintro m _ rfl
  refine (Action.matches_connect m).bind ?_
  rintro c _ rfl
  refine (Action.matches_nodes c).bind ?_
  rintro ns _ rfl
  exact Action.matches_pure rfl

theorem matches_nodes (id : String) : (nodes id).Matches key Eq (nodes id) := by
  refine (Action.matches_client id).bind ?_
  rintro c _ rfl
  exact Action.matches_nodes c

theorem matches_metrics (id : String) (request : Metric.Request) :
    (metrics id request).Matches key Eq (metrics id request) := by
  refine (Action.matches_ofExcept (alike_eq request.validate)).bind ?_
  rintro _ _ -
  refine (Action.matches_get id).bind ?_
  rintro m _ rfl
  -- The address of monitoring is the same, whatever the kubeconfig.
  refine Action.matches_of_asks ?_
  change Job.Asks _ (ExceptT.run (if m.prometheusUrl.isEmpty = true then _ else _))
  split
  · trivial
  · refine ⟨trivial, fun r => ?_⟩
    cases r with
    | error e => trivial
    | ok monitor =>
      exact (measureAll_asks (fun range => trivial) request request.names).bind fun es => trivial

/-- What is asked of a cluster through a client has no kubeconfig in it. -/
theorem matches_reach (id : String) : (reach id).Matches key Eq (reach id) := by
  refine (Action.matches_client id).bind ?_
  rintro c _ rfl
  refine Action.matches_of_asks (x := (do ExceptT.mk (Job.question (.access c)); return c)) ?_
  exact ⟨trivial, fun r => by cases r <;> trivial⟩

theorem matches_exchange (c : Client) (request : Except Error Kube.Request)
    (decoder : Json.Decoder α) :
    (exchange c request decoder).Matches key Eq (exchange c request decoder) := by
  refine (Action.matches_ofExcept (alike_eq request)).bind ?_
  rintro r _ rfl
  have hs : (Job.question (.send c r)).Matches key Eq (Job.question (.send c r)) :=
    .ask (.send c r) fun reply => .done rfl
  refine (Action.matches_lift hs).bind ?_
  rintro reply _ rfl
  exact Action.matches_ofExcept (alike_eq _)

theorem matches_through (id : String) {f : Client → Action α}
    (h : ∀ c, (f c).Matches key Eq (f c)) :
    (reach id >>= f).Matches key Eq (reach id >>= f) := by
  refine (matches_reach id).bind ?_
  rintro c _ rfl
  exact h c

theorem matches_deployments (id ns : String) (page : PageRequest) :
    (deployments id ns page).Matches key Eq (deployments id ns page) := by
  refine matches_through id fun c => (matches_exchange c _ _).bind ?_
  rintro all _ rfl
  exact Action.matches_pure rfl

theorem matches_deployment (id ns name : String) :
    (deployment id ns name).Matches key Eq (deployment id ns name) :=
  matches_through id fun c => matches_exchange c _ _

theorem matches_applyDraft (id ns : String) (action : Deployment.Action) (d : Deployment.Draft) :
    (applyDraft id ns action d).Matches key Eq (applyDraft id ns action d) :=
  matches_through id fun c => matches_exchange c _ _

theorem matches_deleteDeployment (id ns name : String) :
    (deleteDeployment id ns name).Matches key Eq (deleteDeployment id ns name) :=
  matches_through id fun c => matches_exchange c _ _

/-- The submission of another kubeconfig. -/
def Submission.rekey (key : String → String) (s : Submission) : Submission :=
  { s with kubeconfig := key s.kubeconfig }

/-- Whether a kubeconfig is blank just when the one in its place is. -/
def KeepsBlank (key : String → String) (kubeconfig : String) : Prop :=
  (Text.trim (key kubeconfig)).isEmpty = (Text.trim kubeconfig).isEmpty

theorem Submission.validate_rekey {s : Submission} (h : KeepsBlank key s.kubeconfig) :
    Alike (fun r r' => r' = r.rekey key) s.validate (s.rekey key).validate := by
  simp only [validate, KeepsBlank, rekey] at h ⊢
  by_cases hd : (Text.trim s.displayName).isEmpty
  · simp only [hd]
    exact .error _
  by_cases hk : (Text.trim s.kubeconfig).isEmpty
  · simp only [hd, hk, h]
    exact .error _
  simp only [hd, hk, h]
  cases checkEndpoint (Text.trim s.prometheusUrl) with
  | error e => exact .error e
  | ok u => exact .ok rfl

theorem matches_store (r : Registration) (left : Nat) (id : String) :
    (store r left id).Matches key (fun m m' => m' = m.rekey key)
      (store (r.rekey key) left id) := by
  induction left generalizing id with
  | zero =>
    refine .ask (.registry (.create id r)) fun reply => .done ?_
    cases reply with
    | error e => exact .error e
    | ok m => exact .ok rfl
  | succ left ih =>
    refine .ask (.registry (.create id r)) fun reply => ?_
    cases reply with
    | ok m => exact .done (.ok rfl)
    | error e =>
      cases e with
      | conflict reason => exact .ask .freshId fun next => ih next
      | _ => exact .done (.error _)

theorem matches_register {s : Submission} (h : KeepsBlank key s.kubeconfig) :
    (register s).Matches key (fun d d' => d' = d.rekey key) (register (s.rekey key)) := by
  refine (Action.matches_ofExcept (Submission.validate_rekey h)).bind ?_
  rintro r _ rfl
  have hf : (Job.question .freshId).Matches key Eq (Job.question .freshId) :=
    .ask .freshId fun id => .done rfl
  have hn : (Job.question .clock).Matches key Eq (Job.question .clock) :=
    .ask .clock fun now => .done rfl
  refine (Action.matches_lift hf).bind ?_
  rintro id _ rfl
  refine (Action.matches_lift hn).bind ?_
  rintro now _ rfl
  refine (Action.matches_connect (.new id r (some now))).bind ?_
  rintro _ _ -
  refine (matches_store r retries id).bind ?_
  rintro m _ rfl
  refine (Action.matches_client m.id).bind ?_
  rintro c _ rfl
  refine (Action.matches_nodes c).bind ?_
  rintro ns _ rfl
  exact Action.matches_pure rfl

theorem observe_asks (c : Client) : (observe c).run.Asks Call.IsOpen := by
  refine ⟨trivial, fun r => ?_⟩
  cases r with
  | error e => trivial
  | ok ns => exact (observeNodes_asks (fun _ => trivial) _ ns).bind fun o => trivial

theorem matches_summarize (m : Member) : (summarize m).Matches key (fun s s' => s' = s.rekey key)
    (summarize (m.rekey key)) := by
  refine Job.Matches.bind (Action.matches_client m.id) fun r r' hr => ?_
  cases hr with
  | error e => exact .done rfl
  | @ok c _ h =>
    cases h
    refine Job.Matches.bind (observe_asks c).matches ?_
    rintro (e | seen) _ rfl
    · exact .done rfl
    · exact .ask (.version c) fun version => .done rfl

theorem matches_inspect (m : Member) : (inspect m).Matches key (fun s s' => s' = s.rekey key)
    (inspect (m.rekey key)) := by
  refine (matches_summarize m).bind ?_
  rintro s _ rfl
  exact .ask (.registry (.patch s.member.id (.ofHealth s.health))) fun _ => .done rfl

theorem matches_listing (limit : Nat) (request : PageRequest) :
    (listing limit request).Matches key (fun s s' => s' = s.rekey key)
      (Alike fun p p' => p' = ⟨p.items.map (.rekey key), p.total, p.request⟩)
      (listing limit request) := by
  refine .ask (.registry .list) fun r => ?_
  cases r with
  | error e => exact .done (.error e)
  | ok ms =>
    refine .pool .inOrder _ ?_ fun ss ss' h => .done (.ok ?_)
    · rw [slice_map, List.map_map]
      exact forall₂_map_same (fun m => matches_inspect m) _
    · rw [forall₂_eq_map h, List.length_map]

end Service

namespace Sweep

theorem matches_visit (m : Member) : (visit m).Matches key Eq (visit (m.rekey key)) := by
  refine Job.Matches.bind (Action.matches_client m.id) fun r r' hr => ?_
  cases hr with
  | error e => exact .done rfl
  | @ok c _ h =>
    cases h
    refine Job.Matches.bind (Service.observe_asks c).matches ?_
    rintro (e | seen) _ rfl
    · exact .done rfl
    · refine .ask (.registry (.patch m.id seen.totals.patch)) fun r => ?_
      cases r <;> exact .done rfl

private theorem batches_map (size : Nat) (f : β → γ) (xs : List β) :
    batches size (xs.map f) = (batches size xs).map (·.map f) := by
  induction xs using batches.induct size with
  | case1 => simp [batches]
  | case2 x rest ih => simp only [batches, List.map_cons, ← List.map_take, ← List.map_drop, ih]

private theorem covered_map (p : Plan) (ms : List Member) :
    p.covered (ms.map (.rekey key)) = (p.covered ms).map (.rekey key) := by
  unfold Plan.covered
  split
  · rfl
  · exact Service.slice_map _ _ ms

theorem matches_visitBatches (limit : Nat) (r : Report) (bs : List (List Member)) :
    (visitBatches limit r bs).Matches key Eq Eq
      (visitBatches limit r (bs.map (·.map (.rekey key)))) := by
  induction bs generalizing r with
  | nil => exact .done rfl
  | cons batch rest ih =>
    refine .pool .anyOrder _ ?_ fun os os' h => ?_
    · rw [List.map_map]
      exact forall₂_map_same (fun m => matches_visit m) _
    · rw [List.forall₂_eq_eq_eq] at h
      subst h
      exact ih _

theorem matches_pass (p : Plan) : (pass p).Matches key Eq Eq (pass p) := by
  refine .ask (.registry .list) fun r => ?_
  cases r with
  | error e => exact .done rfl
  | ok ms =>
    change Flow.Matches key Eq Eq (visitBatches _ _ (batches _ (p.covered ms)))
      (visitBatches _ _ (batches _ (p.covered (ms.map (.rekey key)))))
    rw [covered_map, batches_map]
    exact matches_visitBatches _ _ _

end Sweep
end MultiCluster
