/-! Winding down: handles of one coordinator announce the end, listeners see it and take notice,
waiters go on when it is announced. -/
namespace MultiCluster.Shutdown

/-- A value that is shown to listeners. The version counts how often it was sent; whoever has seen
an older version has something new to look at. -/
structure Channel where
  value : Bool
  version : Nat
  deriving DecidableEq, Repr

namespace Channel

def initial : Channel := ⟨false, 0⟩

def send (c : Channel) (value : Bool) : Channel := ⟨value, c.version + 1⟩

/-- What somebody sees who has seen a version, and whether it is new. -/
def view (c : Channel) (seen : Nat) : Bool × Bool := (c.value, seen != c.version)

end Channel

/-- How far somebody is who waits for the end: about to look at the value, about to ask for something
new, asleep until there is something new, or going on. -/
inductive Stage where
  | looks
  | asks
  | sleeps
  | goesOn
  deriving DecidableEq, Repr

/-- Somebody who waits for the end: the version that was seen and how far it is. -/
structure Waiter where
  seen : Nat
  stage : Stage
  deriving DecidableEq, Repr

namespace Waiter

/-- One step of a waiter. It looks at the value, and while that does not announce the end it asks for
something new: that is seen at once, or it falls asleep, or nobody is left who could send it. -/
def move (c : Channel) (isOpen : Bool) (w : Waiter) : Waiter :=
  match w.stage with
  | .looks => { w with stage := if c.value then .goesOn else .asks }
  | .asks =>
    if w.seen ≠ c.version then ⟨c.version, .looks⟩
    else { w with stage := if isOpen then .sleeps else .goesOn }
  | .sleeps | .goesOn => w

/-- Somebody asleep is woken, and asks again. -/
def wake (w : Waiter) : Waiter := if w.stage = .sleeps then { w with stage := .asks } else w

/-- The waiter after as many steps. -/
def moves (c : Channel) (isOpen : Bool) : Nat → Waiter → Waiter
  | 0, w => w
  | n + 1, w => moves c isOpen n (w.move c isOpen)

/-- The waiter when it has come as far as it can without others, which takes four steps at most. -/
def rest (c : Channel) (isOpen : Bool) (w : Waiter) : Waiter := w.moves c isOpen 4

end Waiter

/-- The coordinator and all who follow it. Handles and listeners are given by the version that each
has seen. -/
structure State where
  channel : Channel
  started : Bool
  handles : List Nat
  listeners : List Nat
  waiters : List Waiter
  deriving DecidableEq, Repr

/-- What happens to the coordinator and its followers. -/
inductive Event where
  /-- A handle is copied. -/
  | clone (handle : Nat)
  /-- A handle is given up; those behind it move up. -/
  | drop (handle : Nat)
  /-- Somebody starts to listen through a handle, and has seen what the handle has. -/
  | subscribe (handle : Nat)
  /-- Somebody starts to wait through a handle. -/
  | wait (handle : Nat)
  /-- A handle announces the end. -/
  | announce (handle : Nat)
  /-- A listener takes notice of what it sees. -/
  | notice (listener : Nat)
  /-- A waiter takes a step. -/
  | go (waiter : Nat)
  deriving DecidableEq, Repr

namespace State

def initial : State := ⟨.initial, false, [0], [], []⟩

/-- Whether there is somebody left who could send something. -/
def isOpen (s : State) : Bool := !s.handles.isEmpty

/-- Only the first announcement is sent, and wakes those asleep. -/
def announced (s : State) : State :=
  if s.started then s
  else { s with
    started := true
    channel := s.channel.send true
    waiters := s.waiters.map .wake }

/-- Without the handle. When the last one is given up, those asleep are woken. -/
def dropped (s : State) (handle : Nat) : State :=
  let handles := s.handles.eraseIdx handle
  { s with handles, waiters := if handles.isEmpty then s.waiters.map .wake else s.waiters }

/-- The state after an event. Nothing comes of a handle, listener or waiter that is not there. -/
def after (s : State) : Event → State
  | .clone h => { s with handles := s.handles ++ s.handles[h]?.toList }
  | .drop h => s.dropped h
  | .subscribe h => { s with listeners := s.listeners ++ s.handles[h]?.toList }
  | .wait h => { s with waiters := s.waiters ++ s.handles[h]?.toList.map (⟨·, .looks⟩) }
  | .announce h => if h < s.handles.length then s.announced else s
  | .notice i => { s with listeners := s.listeners.set i s.channel.version }
  | .go i => { s with waiters := s.waiters.modify i (·.move s.channel s.isOpen) }

def afterAll (s : State) (events : List Event) : State := events.foldl after s

/-- What the listeners see, and for whom it is new. -/
def views (s : State) : List (Bool × Bool) := s.listeners.map s.channel.view

/-- Which of the waiters go on once they have come as far as they can. -/
def goingOn (s : State) : List Bool :=
  s.waiters.map fun w => (w.rest s.channel s.isOpen).stage == .goesOn

end State

/-- Tasks in the background, which end when they are told to. -/
structure Tasks where
  names : List String
  deriving DecidableEq, Repr

namespace Tasks

def none : Tasks := ⟨[]⟩

def register (t : Tasks) (name : String) : Tasks := ⟨t.names ++ [name]⟩

def stopAll (_ : Tasks) : Tasks := none

end Tasks
end MultiCluster.Shutdown
