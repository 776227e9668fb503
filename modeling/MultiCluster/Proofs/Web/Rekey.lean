import MultiCluster.Proofs.Service.Rekey
import MultiCluster.Web.Service

/-! What the service answers when the clusters have other kubeconfigs: the same. -/
namespace MultiCluster

variable {α : Type} {key : String → String}

namespace Web

/-- Whether two programs answer alike, whatever the kubeconfigs they come across. -/
abbrev Handler.Alike (key : String → String) : Handler → Handler → Prop :=
  Flow.Matches key (fun s s' => s' = s.rekey key) Eq

theorem alike_answerWith {R : α → α → Prop} {status : Nat} {encode : α → Json} {a a' : Action α}
    (h : a.Matches key R a') (he : ∀ x x', R x x' → encode x = encode x') :
    Handler.Alike key (answerWith status encode a) (answerWith status encode a') := by
  refine (Flow.matches_ofJob h).map fun r r' hr => ?_
  cases hr with
  | error e => rfl
  | ok hx => exact congrArg (Answer.ofJson status) (he _ _ hx)

/-- A program that comes to the same value, whatever the kubeconfigs, also answers the same. -/
theorem alike_answerWith_self {status : Nat} {encode : α → Json} {a : Action α}
    (h : a.Matches key Eq a) :
    Handler.Alike key (answerWith status encode a) (answerWith status encode a) :=
  alike_answerWith h fun _ _ => congrArg encode

theorem alike_immediately (a : Answer) : Handler.Alike key (immediately a) (immediately a) :=
  .done rfl

theorem alike_withParameters {p : Except Unit α} {next : α → Handler}
    (h : ∀ a, Handler.Alike key (next a) (next a)) :
    Handler.Alike key (withParameters p next) (withParameters p next) := by
  cases p with
  | error u => exact alike_immediately _
  | ok a => exact h a

/-- Cluster details and summaries are answered without their kubeconfigs. -/
theorem alike_listClusters (limit : Nat) (r : Request) :
    Handler.Alike key (listClusters limit r) (listClusters limit r) := by
  refine alike_withParameters fun page => ?_
  refine (Service.matches_listing limit page).map fun p p' hp => ?_
  cases hp with
  | error e => rfl
  | @ok p _ h =>
    subst h
    simp only [Answer.ofResult, Page.toJson, List.map_map, Function.comp_def, Summary.toJson_rekey]

theorem alike_getMetrics (id node : String) (r : Request) :
    Handler.Alike key (getMetrics id node r) (getMetrics id node r) := by
  refine alike_withParameters fun texts => ?_
  split
  · refine alike_answerWith_self ((Action.matches_ofExcept (alike_eq _)).bind ?_)
    rintro request _ rfl
    exact Service.matches_metrics id request
  · exact alike_immediately _

theorem alike_postDeployment (id ns : String) (r : Request) :
    Handler.Alike key (postDeployment id ns r) (postDeployment id ns r) := by
  refine alike_withParameters fun action => ?_
  split
  · exact alike_immediately _
  · split
    · exact alike_immediately _
    · split
      · exact alike_immediately _
      · exact alike_answerWith_self (Service.matches_applyDraft id ns action _)

theorem alike_deleteDeployment (id ns name : String) :
    Handler.Alike key (deleteDeployment id ns name) (deleteDeployment id ns name) := by
  refine (Flow.matches_ofJob (Service.matches_deleteDeployment id ns name)).map fun r r' hr => ?_
  cases hr with
  | error e => rfl
  | ok h => rfl

/-- A body that is no submission is refused. -/
theorem alike_postCluster {r : Request} (h : (readSubmission r.body).toOption = none) :
    Handler.Alike key (postCluster r) (postCluster r) := by
  unfold postCluster
  cases hs : readSubmission r.body with
  | error fault =>
    split
    · exact alike_immediately _
    · cases fault <;> exact alike_immediately _
  | ok s =>
    rw [hs] at h
    cases h

/-- What a request leads to, unless it registers a cluster. -/
theorem alike_handle (limit : Nat) {r : Request} {route : Route}
    (h : r.method = "POST" → route = .clusters → (readSubmission r.body).toOption = none) :
    Handler.Alike key (handle limit r route) (handle limit r route) := by
  cases route with
  | health => exact alike_immediately _
  | clusters =>
    simp only [handle]
    split
    · next hpost => exact alike_postCluster (h hpost rfl)
    · exact alike_listClusters limit r
  | cluster id =>
    refine alike_answerWith (Service.matches_detail id) ?_
    rintro d _ rfl
    exact d.toJson_rekey.symm
  | nodes id => exact alike_answerWith_self (Service.matches_nodes id)
  | metrics id node => exact alike_getMetrics id node r
  | deployments id ns =>
    simp only [handle]
    split
    · exact alike_postDeployment id ns r
    · exact alike_withParameters fun page =>
        alike_answerWith_self (Service.matches_deployments id ns page)
  | deployment id ns name =>
    simp only [handle]
    split
    · exact alike_deleteDeployment id ns name
    · exact alike_answerWith_self (Service.matches_deployment id ns name)

/-- The submission in a request to register a cluster. -/
def Request.submission? (r : Request) : Option Service.Submission :=
  if r.method = "POST" ∧ Route.ofPath r.path = some .clusters then
    (readSubmission r.body).toOption
  else none

/-- Two requests that are the same, but for the kubeconfig in them if they register a cluster. -/
inductive Request.Rekeys (key : String → String) : Request → Request → Prop where
  | same {r : Request} (h : r.submission? = none) : Rekeys key r r
  | registers {r : Request} {body : String} {s : Service.Submission} (h : r.submission? = some s)
      (h' : Request.submission? { r with body } = some (s.rekey key)) :
      Rekeys key r { r with body }

private theorem decoded_eq_clusters {route : Route} (h : route.decoded = some .clusters) :
    route = .clusters := by
  cases route with
  | clusters => rfl
  | _ => simp [Route.decoded, Option.bind_eq_some_iff] at h

private theorem respond_registers (limit : Nat) {r : Request} {s : Service.Submission}
    (h : r.submission? = some s) : respond limit r =
      if r.hasJson then answerWith 201 Detail.toJson (Service.register s) else refuse 415 := by
  unfold Request.submission? at h
  split at h
  · rename_i hr
    obtain ⟨hpost, hpath⟩ := hr
    have hs : readSubmission r.body = .ok s := by
      cases hb : readSubmission r.body with
      | error e => simp [hb, Except.toOption] at h
      | ok x => simpa [hb, Except.toOption] using h
    have hm : Route.clusters.methods.contains r.method = true := by
      rw [hpost]
      decide
    have hhead : r.method ≠ "HEAD" := by
      rw [hpost]
      decide
    simp only [respond, hpath, hm, Route.decoded, if_neg hhead, handle, if_pos hpost, postCluster, hs]
    cases r.hasJson <;> simp
  · cases h

private theorem alike_respond_self (limit : Nat) {r : Request} (h : r.submission? = none) :
    Handler.Alike key (respond limit r) (respond limit r) := by
  unfold respond
  cases hpath : Route.ofPath r.path with
  | none => exact alike_immediately _
  | some route =>
    dsimp only
    split
    · exact alike_immediately _
    · cases hd : route.decoded with
      | none => exact alike_immediately _
      | some decoded =>
        have program : Handler.Alike key (handle limit r decoded) (handle limit r decoded) := by
          refine alike_handle limit fun hpost hc => ?_
          rw [decoded_eq_clusters (hd.trans (congrArg some hc))] at hpath
          simpa [Request.submission?, hpost, hpath] using h
        dsimp only
        split
        · exact program.map fun a a' => congrArg Answer.withoutBody
        · exact program

/-- Requests that differ in a kubeconfig at most are answered alike. -/
theorem alike_respond (limit : Nat) {r r' : Request} (h : r.Rekeys key r')
    (hb : ∀ s, r.submission? = some s → Service.KeepsBlank key s.kubeconfig) :
    Handler.Alike key (respond limit r) (respond limit r') := by
  cases h with
  | same h => exact alike_respond_self limit h
  | @registers body s h h' =>
    rw [respond_registers limit h, respond_registers limit h']
    have hj : Request.hasJson { r with body } = r.hasJson := rfl
    rw [hj]
    cases r.hasJson with
    | false => exact alike_immediately _
    | true =>
      refine alike_answerWith (Service.matches_register (hb s h)) ?_
      rintro d _ rfl
      exact d.toJson_rekey.symm

end Web
end MultiCluster
