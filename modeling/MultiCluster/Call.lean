import MultiCluster.Kube.Objects
import MultiCluster.Kube.Reply
import MultiCluster.Metric.Request
import MultiCluster.Registry
import MultiCluster.Totals

/-! What the service asks of its surroundings: the registry, the member clusters and monitoring. -/
namespace MultiCluster

/-- A client of one member cluster, built by one connection. -/
structure Client where
  number : Nat
  deriving DecidableEq, Repr

/-- A monitoring backend that has been connected to. -/
structure Monitor where
  number : Nat
  deriving DecidableEq, Repr

/-- A question to the surroundings. -/
inductive Call where
  /-- A call of the registry. -/
  | registry (call : Registry.Call)
  /-- A new id for a cluster. -/
  | freshId
  /-- The time of day. -/
  | clock
  /-- A client built from what is recorded of a cluster. -/
  | connect (member : Member)
  /-- The nodes of a cluster. -/
  | nodes (client : Client)
  /-- The live usage of a node. -/
  | usage (client : Client) (node : String)
  /-- The version of a cluster. -/
  | version (client : Client)
  /-- Whether requests can be sent to the cluster at all. -/
  | access (client : Client)
  /-- What a request to the cluster is answered with. -/
  | send (client : Client) (request : Kube.Request)
  /-- A monitoring backend at an address. -/
  | monitor (endpoint : String)
  /-- The series of an expression. -/
  | query (monitor : Monitor) (range : Metric.RangeQuery)

namespace Call

/-- What a call is answered with. -/
abbrev Reply : Call → Type
  | registry c => c.Reply
  | freshId => String
  | clock => String
  | connect _ => Except Error Client
  | nodes _ => Except Error (List Node)
  | usage .. => Except Error Usage
  | version _ => Except Error Kube.Version
  | access _ => Except Error Unit
  | send .. => Kube.Reply
  | monitor _ => Except Error Monitor
  | query .. => Except Error (List Series)

end Call
end MultiCluster
