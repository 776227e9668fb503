import MultiCluster.Flow
import MultiCluster.Page
import MultiCluster.Service.Observe

/-! Passes over the registry that store the totals of every cluster anew. -/
namespace MultiCluster

/-- Which clusters a pass covers: all of them, or only those of the first page. -/
inductive Scope where
  | all
  | firstPage
  deriving DecidableEq, Repr

def Scope.text : Scope → String
  | all => "all"
  | firstPage => "first_page"

def Scope.parse? : String → Option Scope
  | "all" => some .all
  | "first_page" => some .firstPage
  | _ => none

namespace Sweep

/-- How passes are made: what they cover, how many clusters make a batch and how many of a batch are
visited side by side. -/
structure Plan where
  scope : Scope
  pageSize : Nat
  limit : Nat
  deriving DecidableEq, Repr

/-- What comes of a visit: the totals are stored, they could not be had, or not be stored. -/
inductive Outcome where
  | patched
  | skipped
  | failed
  deriving DecidableEq, Repr

/-- The counts of a pass. -/
structure Report where
  considered : Nat
  patched : Nat
  skipped : Nat
  failed : Nat
  deriving DecidableEq, Repr

namespace Report

def empty : Report := ⟨0, 0, 0, 0⟩

def add (r : Report) : Outcome → Report
  | .patched => { r with considered := r.considered + 1, patched := r.patched + 1 }
  | .skipped => { r with considered := r.considered + 1, skipped := r.skipped + 1 }
  | .failed => { r with considered := r.considered + 1, failed := r.failed + 1 }

/-- What to report of a pass that left clusters out. -/
def partialFailure? (r : Report) : Option Error :=
  if r.skipped + r.failed > 0 then some (.partialFailure (r.skipped + r.failed) r.considered)
  else none

/-- The counts as a JSON value, with the failure in words. -/
def toJson (r : Report) : Json :=
  .obj [("considered", .int r.considered), ("patched", .int r.patched),
    ("skipped", .int r.skipped), ("failed", .int r.failed),
    ("partial", .ofText? (r.partialFailure?.map Error.message))]

end Report

/-- Visits a cluster: stores the totals of its nodes, and only them. -/
def visit (m : Member) : Job Outcome := do
  match ← (Action.client m.id).run with
  | .error _ => return .skipped
  | .ok c =>
    match ← (Service.observe c).run with
    | .error _ => return .skipped
    | .ok seen =>
      match ← Job.question (.registry (.patch m.id seen.totals.patch)) with
      | .ok () => return .patched
      | .error _ => return .failed

/-- The items in batches of the given size, the last of which may be smaller. -/
def batches {α : Type} (size : Nat) (items : List α) : List (List α) :=
  match items with
  | [] => []
  | x :: rest => (x :: rest.take (size - 1)) :: batches size (rest.drop (size - 1))
termination_by items.length
decreasing_by
  rw [List.length_drop, List.length_cons]
  exact Nat.lt_succ_of_le (Nat.sub_le _ _)

/-- Visits batch after batch and counts what comes of it. -/
def visitBatches (limit : Nat) (r : Report) : List (List Member) →
    Flow Outcome (Except Error Report)
  | [] => .done (.ok r)
  | batch :: rest =>
    .pool .anyOrder (max limit 1) (batch.map visit) fun outcomes =>
      visitBatches limit (outcomes.foldl Report.add r) rest

/-- The members that a pass covers. -/
def Plan.covered (p : Plan) (members : List Member) : List Member :=
  match p.scope with
  | .all => members
  | .firstPage => PageRequest.slice ⟨1, max p.pageSize 1⟩ members

/-- One pass. Fails only if the registry cannot be read. -/
def pass (p : Plan) : Flow Outcome (Except Error Report) :=
  .ask (.registry .list) fun
    | .error e => .done (.error e)
    | .ok members => visitBatches p.limit .empty (batches (max p.pageSize 1) (p.covered members))

end Sweep
end MultiCluster
