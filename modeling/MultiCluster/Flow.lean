import MultiCluster.Job

/-! Programs with pools of jobs that run side by side. A pool lets a limited number of its jobs
wait for answers at a time; any of these may be answered next. -/
namespace MultiCluster

/-- Which jobs of a pool may run. Either the finished ones in front make room, so that results can
be handed on in order, or every finished one does. -/
inductive Window where
  | inOrder
  | anyOrder
  deriving DecidableEq, Repr

/-- A program asks a question itself, or runs the jobs of a pool and goes on with their results,
which are in the order of the jobs. -/
inductive Flow (β α : Type) where
  | done (value : α)
  | ask (call : Call) (next : call.Reply → Flow β α)
  | pool (window : Window) (limit : Nat) (jobs : List (Job β)) (next : List β → Flow β α)

namespace Flow

variable {α β γ : Type}

/-- A sequential program without pools. -/
def ofJob : Job α → Flow β α
  | .done a => done a
  | .ask c next => ask c fun r => ofJob (next r)

def map (f : α → γ) : Flow β α → Flow β γ
  | done a => done (f a)
  | ask c next => ask c fun r => (next r).map f
  | pool w limit jobs next => pool w limit jobs fun bs => (next bs).map f

/-- The jobs of a pool that may run, by position: those not done among the first `limit` behind the
finished ones in front, or the first `limit` of those not done. -/
def runnable (w : Window) (limit : Nat) (jobs : List (Job β)) : List Nat :=
  let isOpen (i : Nat) : Bool := (jobs[i]?.map fun j => j.value?.isNone).getD false
  match w with
  | .inOrder =>
    let finished := (jobs.takeWhile fun j => j.value?.isSome).length
    (List.range' finished limit).filter isOpen
  | .anyOrder => ((List.range jobs.length).filter isOpen).take limit

/-- The results of a pool whose jobs are all done. -/
def results? (jobs : List (Job β)) : Option (List β) := jobs.mapM Job.value?

/-- Goes on behind pools whose jobs are all done. -/
def settle : Flow β α → Flow β α
  | pool w limit jobs next =>
    match results? jobs with
    | some bs => (next bs).settle
    | none => pool w limit jobs next
  | flow => flow

def value? : Flow β α → Option α
  | done a => some a
  | _ => none

/-- The questions that wait for an answer, by position. -/
def waiting : Flow β α → List (Nat × Call)
  | done _ => []
  | ask c _ => [(0, c)]
  | pool w limit jobs _ =>
    (runnable w limit jobs).filterMap fun i => (jobs[i]?.bind Job.call?).map (i, ·)

/-- Lets the surroundings answer the question at a position. -/
def step {m : Type → Type} [Monad m] (serve : (c : Call) → m c.Reply) (position : Nat) :
    Flow β α → m (Flow β α)
  | done a => pure (done a)
  | ask c next => return (next (← serve c)).settle
  | pool w limit jobs next =>
    match jobs[position]? with
    | some job => return (pool w limit (jobs.set position (← job.step serve)) next).settle
    | none => pure (pool w limit jobs next)

end Flow
end MultiCluster
