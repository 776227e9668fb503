import MultiCluster.Scenario.World
import MultiCluster.Sweep
import MultiCluster.Sweep.Activity

/-! Programs among scripted surroundings on a clock that moves only while something is waited for. A
program may run beside loops that make passes over the registry at an interval. -/
namespace MultiCluster.Scenario

/-- A program that runs. Of each question that waits, by its position, it is known when the answer
comes, if ever. -/
structure Task (β α : Type) where
  flow : Flow β α
  due : List (Nat × Option Nat)

namespace Task

variable {β α : Type}

/-- The task with the times of questions that have come up, which are asked now. -/
def refresh (t : Task β α) (w : World) (now : Nat) : Task β α :=
  { t with due := t.flow.waiting.map fun (position, call) =>
      (position, (t.due.lookup position).getD ((w.duration? call).map (now + ·))) }

/-- A program at its beginning. -/
def start (flow : Flow β α) (w : World) (now : Nat) : Task β α :=
  Task.refresh ⟨flow.settle, []⟩ w now

/-- The position whose answer comes first, the lowest of several, and when it comes. -/
def next? (t : Task β α) : Option (Nat × Nat) :=
  t.due.foldl (fun first entry =>
    match first, entry.2 with
    | none, some time => some (entry.1, time)
    | some (position, earliest), some time =>
      if time < earliest then some (entry.1, time) else some (position, earliest)
    | first, none => first) none

/-- Lets the question at a position be answered. -/
def answer (t : Task β α) (position : Nat) (registered : String) (now : Nat) :
    StateM World (Task β α) := do
  let flow ← t.flow.step (World.serve registered) position
  let others := t.due.filter fun entry => entry.1 != position
  return Task.refresh ⟨flow, others⟩ (← get) now

end Task

/-- Passes at an interval in milliseconds: when the next one is due and the one in progress. -/
structure Loop where
  nextTick : Nat
  pass : Option (Task Sweep.Outcome (Except Error Sweep.Report))

/-- Surroundings with a clock in milliseconds. Loops run in the order in which they were started;
the last one may be at hand, and only that one can be ended. The activity counts all passes, whoever
makes them. -/
structure Scene where
  world : World
  plan : Sweep.Plan
  interval : Nat
  /-- The time that newly registered clusters are given. -/
  registered : String
  now : Nat
  activity : Sweep.Activity
  loops : List Loop
  isLastAtHand : Bool

/-- When a loop does something next, if ever. -/
def Loop.nextTime? (l : Loop) : Option Nat :=
  match l.pass with
  | none => some l.nextTick
  | some pass => pass.next?.map (·.2)

namespace Scene

/-- A tick that comes later than this, in milliseconds, moves the ones after it. -/
def tolerance : Nat := 5

/-- The loop that does something next, by position, and when; of several the one started first. -/
def next? (s : Scene) : Option (Nat × Nat) :=
  s.loops.zipIdx.foldl (fun first (l, position) =>
    match first, l.nextTime? with
    | none, some time => some (position, max s.now time)
    | some (earlier, earliest), some time =>
      if max s.now time < earliest then some (position, max s.now time)
      else some (earlier, earliest)
    | first, none => first) none

/-- The loop at the beginning of a pass. The pass after it is due an interval after this one was, or
after now if this one is late. -/
def beginPass (s : Scene) (l : Loop) : Loop :=
  let isLate := s.now > l.nextTick + tolerance
  { nextTick := (if isLate then s.now else l.nextTick) + s.interval
    pass := some (Task.start (Sweep.pass s.plan) s.world s.now) }

/-- Lets the loop at a position do one thing, at the time at which it is due. -/
def stepLoop (s : Scene) (position time : Nat) : Scene :=
  let s := { s with now := time }
  match s.loops[position]? with
  | none => s
  | some l =>
    match l.pass with
    | none =>
      { s with
        activity := s.activity.after .start
        loops := s.loops.set position (s.beginPass l) }
    | some pass =>
      match pass.next? with
      | none => s
      | some (question, _) =>
        let (pass, world) := (pass.answer question s.registered s.now).run s.world
        let isOver := pass.flow.value?.isSome
        { s with
          world
          activity := if isOver then s.activity.after .finish else s.activity
          loops := s.loops.set position { l with pass := if isOver then none else some pass } }

/-- Lets the loops do everything that is due before a time, within so many steps. -/
def runBefore (time : Nat) : Nat → Scene → Scene
  | 0, s => s
  | steps + 1, s =>
    match s.next? with
    | some (position, due) =>
      if due < time then runBefore time steps (s.stepLoop position due) else s
    | none => s

/-- More steps than any scene takes. -/
def patience : Nat := 10000000

/-- Lets the loops do what is due by now. -/
def settle (s : Scene) : Scene := runBefore (s.now + 1) patience s

/-- Lets the clock go on by some milliseconds. What is due at the very end is left for later, and
without any time nothing happens. -/
def advance (s : Scene) (duration : Nat) : Scene :=
  if duration = 0 then s
  else { runBefore (s.now + duration) patience s with now := s.now + duration }

/-- Lets a task go on to its end beside the loops, within so many steps. What comes first is done
first, and what the task waits for in front of what loops wait for. -/
def runTask {β α : Type} : Nat → Task β α → Scene → Option α × Scene
  | 0, _, s => (none, s)
  | steps + 1, t, s =>
    match t.flow.value? with
    | some a => (some a, s)
    | none =>
      match t.next?, s.next? with
      | none, none => (none, s)
      | none, some (position, due) => runTask steps t (s.stepLoop position due)
      | some (question, time), background =>
        match background.filter (·.2 < time) with
        | some (position, due) => runTask steps t (s.stepLoop position due)
        | none =>
          let (t, world) := (t.answer question s.registered time).run s.world
          runTask steps t { s with world, now := time }

def perform {β α : Type} (s : Scene) (flow : Flow β α) : Option α × Scene :=
  runTask patience (Task.start flow s.world s.now) s

/-- Makes a pass beside the loops. -/
def performPass (s : Scene) : Option (Except Error Sweep.Report) × Scene :=
  let s := { s with activity := s.activity.after .start }
  let (result, s) := runTask patience (Task.start (Sweep.pass s.plan) s.world s.now) s
  (result, { s with activity := s.activity.after .finish })

/-- Starts a loop beside those that run; its first pass is due at once. Without an interval it makes
no pass. -/
def startLoop (s : Scene) : Scene :=
  if s.interval = 0 then { s with isLastAtHand := false }.settle
  else
    let l : Loop := { nextTick := s.now, pass := none }
    { s with loops := s.loops ++ [l], isLastAtHand := true }.settle

/-- Ends the loop at hand wherever it is; a pass in progress is dropped. -/
def stopLoop (s : Scene) : Scene :=
  match s.isLastAtHand, s.loops.getLast? with
  | true, some l =>
    { s with
      activity := if l.pass.isSome then s.activity.after .drop else s.activity
      loops := s.loops.dropLast
      isLastAtHand := false }.settle
  | _, _ => s

end Scene
end MultiCluster.Scenario
