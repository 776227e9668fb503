import MultiCluster.Proofs.Page
import MultiCluster.Proofs.Service.Deployments
import MultiCluster.Proofs.Service.Division

/-! What is cut into pages: the members in a listing, the deployments of a namespace, and what a
pass walks through. -/
namespace MultiCluster.Service

/-- A summary shows a member as it is, except for the health that was found. -/
def Shows (m : Member) (x : Summary) : Prop :=
  x.member = { m with status := { m.status with health := x.health } }

/-- What a listing gives after an answer about the members: the page of all that there are. -/
inductive GivesPage (request : PageRequest) :
    Except Error (List Member) → Except Error (Page Summary) → Prop where
  | failed (e : Error) : GivesPage request (.error e) (.error e)
  | listed {all : List Member} {summaries : List Summary}
      (shown : List.Forall₂ Shows (request.slice all) summaries) :
      GivesPage request (.ok all) (.ok ⟨summaries, all.length, request⟩)

/-- What there is to be listed when the list of members is asked for: those in the store, unless
the registry meets a fault. -/
def membersAt (t : Turn) (w : Surroundings) : Except Error (List Member) :=
  match t.fault with
  | none => .ok w.store.members
  | some e => .error e

theorem serve_list_fst (t : Turn) (w : Surroundings) :
    (t.serve (.registry .list) w).1 = membersAt t w := by
  rw [Turn.serve, Turn.answer, membersAt]
  cases t.fault <;> rfl

/-- Whatever is answered and in whatever order, a listing ends with the page of the members. -/
theorem listing_givesPage (limit : Nat) (request : PageRequest) (schedule : Nat → Turn)
    (w : Surroundings) : ∃ n r v, (listing limit request).turns schedule n w = (.done r, v) ∧
      GivesPage request (membersAt (schedule 0) w) r := by
  have front (n : Nat) := Flow.turns_succ schedule n (listing limit request) w
  simp only [listing, Flow.turn_ask, serve_list_fst] at front
  cases given : membersAt (schedule 0) w with
  | error e =>
    rw [given] at front
    exact ⟨1, _, _, front 0, .failed e⟩
  | ok all =>
    rw [given] at front
    obtain ⟨n, summaries, v, hn, hg⟩ := Flow.pool_gathers (α := Except Error (Page Summary))
      (Nat.le_max_right limit 1) .inOrder ((request.slice all).map inspect)
      (fun summaries => .done (.ok ⟨summaries, all.length, request⟩))
      (fun k => schedule (k + 1)) ((schedule 0).serve (.registry .list) w).2
    refine ⟨n + 1, _, v, (front n).trans hn, .listed ?_⟩
    refine (List.forall₂_map_left_iff.1 hg.says).imp fun m x => ?_
    rintro ⟨es, hes⟩
    exact member_of_inspect hes

/-- The pages of the members that a pass covers, from the first to the last that is not empty. -/
def pagesOf (p : Sweep.Plan) (members : List Member) : List (List Member) :=
  let size := max p.pageSize 1
  (List.range (PageRequest.count size (p.covered members).length)).map fun i =>
    PageRequest.slice ⟨i + 1, size⟩ (p.covered members)

/-- A pass visits page after page. -/
theorem pass_eq (p : Sweep.Plan) : Sweep.pass p = .ask (.registry .list) fun
    | .error e => .done (.error e)
    | .ok members => Sweep.visitBatches p.limit .empty (pagesOf p members) := by
  apply congrArg (Flow.ask (.registry .list))
  funext r
  cases r with
  | error e => rfl
  | ok members =>
    exact congrArg (Sweep.visitBatches p.limit .empty)
      (PageRequest.batches_eq (Nat.le_max_right p.pageSize 1) _)

/-- That pages are the same wherever they are cut: out of any list, out of the members that a pass
walks through, out of those in a listing, under any schedule, and out of the deployments of a
namespace. -/
structure PagesAgree : Prop where
  lists : ∀ {α : Type} (items : List α), PageRequest.IsPaged items
  passes : ∀ p : Sweep.Plan, Sweep.pass p = .ask (.registry .list) fun
    | .error e => .done (.error e)
    | .ok members => Sweep.visitBatches p.limit .empty (pagesOf p members)
  listings : ∀ (limit : Nat) (request : PageRequest) (schedule : Nat → Turn) (w : Surroundings),
    ∃ n r v, (listing limit request).turns schedule n w = (.done r, v) ∧
      GivesPage request (membersAt (schedule 0) w) r
  deployments : ∀ (answers : (c : Call) → c.Reply) (id ns : String) (request : PageRequest),
    (deployments id ns request).result answers = (allDeployments answers id ns).map fun all =>
      ⟨request.slice all, all.length, request⟩

theorem pages_agree : PagesAgree where
  lists := PageRequest.isPaged
  passes := pass_eq
  listings := listing_givesPage
  deployments := result_deployments

end MultiCluster.Service
