import MultiCluster.Flow
import MultiCluster.Store

/-! Surroundings that keep a store and otherwise answer as they please, one question of a program at
a time. What was asked and answered is kept in order. -/
namespace MultiCluster

/-- A question and what it was answered with. -/
structure Exchange where
  call : Call
  reply : call.Reply

/-- A store and what has been said so far. -/
structure Surroundings where
  store : Store
  past : List Exchange

/-- One move of the surroundings: which of the waiting questions is answered, counted round, and
how. A call of the registry meets a fault, which changes nothing, or is served by the store at the
given time; anything may be answered to any other question. -/
structure Turn where
  pick : Nat
  now : String
  fault : Option Error
  outside : (c : Call) → c.Reply

namespace Turn

/-- The answer to a question. -/
def answer (t : Turn) : (c : Call) → StateM Store c.Reply
  | .registry c =>
    match t.fault with
    | some e => return c.fail e
    | none => Store.serve t.now c
  | c => return t.outside c

/-- A move that answers the first of the waiting questions. All clusters can be reached and have no
nodes. -/
def plain : Turn where
  pick := 0
  now := "2024-05-01T10:00:00+00:00"
  fault := none
  outside
    | .registry c => c.fail (.internal "not outside")
    | .freshId => "cluster-a1b2c3"
    | .clock => "2024-05-01T10:00:00+00:00"
    | .connect _ => .ok ⟨0⟩
    | .nodes _ => .ok []
    | .usage _ node => .ok ⟨node, "100m", "64Mi", ""⟩
    | .version _ => .ok ⟨"1.32", "v1.32.0", "", "", ""⟩
    | .access _ => .ok ()
    | .send .. => .silence
    | .monitor _ => .ok ⟨0⟩
    | .query .. => .ok []

/-- The answer to a question, which is kept. -/
def serve (t : Turn) (c : Call) : StateM Surroundings c.Reply := fun w =>
  let (r, store) := t.answer c w.store
  (r, ⟨store, w.past ++ [⟨c, r⟩]⟩)

theorem answer_store (t : Turn) (c : Call) (w : Surroundings) :
    t.answer c w.store = ((t.serve c w).1, (t.serve c w).2.store) := rfl

theorem serve_list {t : Turn} (h : t.fault = none) (w : Surroundings) :
    t.serve (.registry .list) w =
      (.ok w.store.members, ⟨w.store, w.past ++ [⟨.registry .list, .ok w.store.members⟩]⟩) := by
  simp only [serve, answer, h]
  rfl

@[simp] theorem past_serve (t : Turn) (c : Call) (w : Surroundings) :
    (t.serve c w).2.past = w.past ++ [⟨c, (t.serve c w).1⟩] := rfl

end Turn

namespace Flow

variable {α β : Type}

/-- Lets the surroundings move once. A program without a waiting question stays as it is. -/
def turn (t : Turn) (f : Flow β α) : StateM Surroundings (Flow β α) :=
  match f.waiting[t.pick % f.waiting.length]? with
  | some (position, _) => f.step t.serve position
  | none => return f

/-- Lets the surroundings move as often as wanted, by a schedule. -/
def turns (schedule : Nat → Turn) : Nat → Flow β α → StateM Surroundings (Flow β α)
  | 0, f => return f
  | n + 1, f => do (← f.turn (schedule 0)).turns (fun k => schedule (k + 1)) n

end Flow
end MultiCluster
