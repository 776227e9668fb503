import MultiCluster.Proofs.Flow.Course
import MultiCluster.Proofs.Store.Growth
import MultiCluster.Service.Listing
import MultiCluster.Service.Query
import MultiCluster.Service.Register
import MultiCluster.Sweep

/-! The service under load: operations and passes that run side by side over one store, answered in
any order, with a record of all that each of them says. -/
namespace MultiCluster.Service

/-- What can be asked of the service, and passes over its clusters. -/
inductive Operation where
  | list (limit : Nat) (request : PageRequest)
  | client (id : String)
  | detail (id : String)
  | nodes (id : String)
  | register (x : Submission)
  | metrics (id : String) (request : Metric.Request)
  | deployments (id ns : String) (request : PageRequest)
  | deployment (id ns name : String)
  | apply (id ns : String) (action : Deployment.Action) (draft : Deployment.Draft)
  | delete (id ns name : String)
  | pass (plan : Sweep.Plan)

namespace Operation

/-- What the jobs of its pools yield. -/
abbrev Part : Operation → Type
  | list .. => Summary
  | pass _ => Sweep.Outcome
  | _ => Unit

/-- What comes of it when it succeeds. -/
abbrev Result : Operation → Type
  | list .. => Page Summary
  | client _ => Client
  | detail _ => Detail
  | nodes _ => List Node
  | register _ => Detail
  | metrics .. => List Metric.Entry
  | deployments .. => Page Deployment
  | deployment .. => Deployment
  | apply .. => Deployment
  | delete .. => Unit
  | pass _ => Sweep.Report

def program : (o : Operation) → Flow o.Part (Except Error o.Result)
  | list limit request => listing limit request
  | client id => .ofJob (Action.client id).run
  | detail id => .ofJob (Service.detail id).run
  | nodes id => .ofJob (Service.nodes id).run
  | register x => .ofJob (Service.register x).run
  | metrics id request => .ofJob (Service.metrics id request).run
  | deployments id ns request => .ofJob (Service.deployments id ns request).run
  | deployment id ns name => .ofJob (Service.deployment id ns name).run
  | apply id ns action draft => .ofJob (applyDraft id ns action draft).run
  | delete id ns name => .ofJob (deleteDeployment id ns name).run
  | pass plan => Sweep.pass plan

end Operation

/-- An operation as far as it has come, with what it has said. -/
structure Work where
  operation : Operation
  flow : Flow operation.Part (Except Error operation.Result)
  log : List Moment

namespace Work

def start (o : Operation) : Work := ⟨o, o.program, []⟩

/-- Lets the surroundings move once. -/
def turn (t : Turn) (k : Work) : StateM Surroundings Work := fun w =>
  let (flow, v) := k.flow.turn t w
  (⟨k.operation, flow, k.log ++ (v.past.drop w.past.length).map (⟨w.store, ·⟩)⟩, v)

end Work

end MultiCluster.Service

namespace MultiCluster

/-- A move where a connection gives a client with the given number. -/
def Turn.numbered (n : Nat) (t : Turn) : Turn :=
  { t with outside := fun
    | .connect m => (t.outside (.connect m)).map fun _ => ⟨n⟩
    | c => t.outside c }

end MultiCluster

namespace MultiCluster.Service

/-- Operations that were begun, finished or not, and the surroundings they share. -/
structure Load where
  works : List Work
  surroundings : Surroundings

namespace Load

/-- An operation begins, or one of those that have begun gets an answer. -/
inductive Event where
  | start (operation : Operation)
  | answer (work : Nat) (turn : Turn)

/-- Nothing has begun. -/
def idle (s : Store) : Load := ⟨[], ⟨s, []⟩⟩

def store (x : Load) : Store := x.surroundings.store

/-- What comes of one event. Every connection gives a client with a number of its own. -/
def step (x : Load) : Event → Load
  | .start o => { x with works := x.works ++ [.start o] }
  | .answer i t =>
    match x.works[i]? with
    | none => x
    | some k =>
      let (k, w) := k.turn (t.numbered x.surroundings.past.length) x.surroundings
      ⟨x.works.set i k, w⟩

/-- What comes of events one after the other. -/
def run (x : Load) (events : List Event) : Load := events.foldl step x

end Load
end MultiCluster.Service
