import MultiCluster.Call

/-! Sequential programs that ask their surroundings one question after the other. -/
namespace MultiCluster

/-- A program is done, or asks a question and goes on with the answer. -/
inductive Job (α : Type) where
  | done (value : α)
  | ask (call : Call) (next : call.Reply → Job α)

namespace Job

variable {α β : Type}

def bind : Job α → (α → Job β) → Job β
  | done a, f => f a
  | ask c next, f => ask c fun r => (next r).bind f

instance : Monad Job where
  pure := done
  bind := bind

def question (c : Call) : Job c.Reply := ask c done

def value? : Job α → Option α
  | done a => some a
  | ask .. => none

def call? : Job α → Option Call
  | done _ => none
  | ask c _ => some c

/-- Lets the surroundings answer the next question. -/
def step {m : Type → Type} [Monad m] (serve : (c : Call) → m c.Reply) : Job α → m (Job α)
  | done a => pure (done a)
  | ask c next => return next (← serve c)

/-- Lets the surroundings answer all questions. -/
def run {m : Type → Type} [Monad m] (serve : (c : Call) → m c.Reply) : Job α → m α
  | done a => pure a
  | ask c next => do (next (← serve c)).run serve

@[simp] theorem done_bind (a : α) (f : α → Job β) : (done a).bind f = f a := rfl

@[simp] theorem ask_bind (c : Call) (next : c.Reply → Job α) (f : α → Job β) :
    (ask c next).bind f = ask c fun r => (next r).bind f := rfl

@[simp] theorem bind_done (j : Job α) : j.bind done = j := by
  induction j with
  | done a => rfl
  | ask c next ih => simp [ih]

theorem bind_assoc {γ : Type} (j : Job α) (f : α → Job β) (g : β → Job γ) :
    (j.bind f).bind g = j.bind fun a => (f a).bind g := by
  induction j with
  | done a => rfl
  | ask c next ih => simp [ih]

instance : LawfulMonad Job :=
  LawfulMonad.mk' Job bind_done (fun _ _ => rfl) bind_assoc

end Job

/-- Sequential programs that may fail. -/
abbrev Action := ExceptT Error Job

namespace Action

/-- A value that was computed without questions. -/
def ofExcept {α : Type} (r : Except Error α) : Action α := ExceptT.mk (.done r)

def list : Action (List Member) := ExceptT.mk (Job.question (.registry .list))

def get (id : String) : Action Member := ExceptT.mk (Job.question (.registry (.get id)))

def connect (m : Member) : Action Client := ExceptT.mk (Job.question (.connect m))

/-- A client for the cluster under an id, from what is recorded of it at that moment. -/
def client (id : String) : Action Client := do connect (← get id)

def nodes (c : Client) : Action (List Node) := ExceptT.mk (Job.question (.nodes c))

end Action
end MultiCluster
