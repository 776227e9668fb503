import MultiCluster.Error
import MultiCluster.Node
import MultiCluster.Quantity
import MultiCluster.Status

/-! Capacity and usage of nodes in thousandths of a core and in megabytes, and their sums. Sums stay
within 64 bits: they stop at the bounds. -/
namespace MultiCluster

/-- The live usage of one node as written by the metrics service. -/
structure Usage where
  node : String
  cpu : String
  memory : String
  timestamp : String
  deriving DecidableEq, Repr

namespace Usage

/-- The usage of a node in the answer of the metrics service. A quantity that is not a text counts
as zero. -/
def ofAnswer (node : String) (answer : Json) : Except Error Usage :=
  match answer.member? "usage" with
  | none => .error (.internal s!"metrics for node {node} carry no usage")
  | some usage => .ok {
      node
      cpu := (usage.textAt? ["cpu"]).getD "0"
      memory := (usage.textAt? ["memory"]).getD "0"
      timestamp := answer.textAt ["timestamp"] }

end Usage

/-- Capacity and usage of one node in whole units. -/
structure Sample where
  node : String
  cpuCapacity : Int
  cpuUsage : Int
  memoryCapacity : Int
  memoryUsage : Int
  deriving DecidableEq, Repr

namespace Sample

/-- Whole units of a written quantity; one that is missing or not readable counts as zero. -/
def amount (units? : String → Option Int) (written : Option String) : Int :=
  (written.bind units?).getD 0

/-- The capacity of a node next to its usage. -/
def of (n : Node) (u : Usage) : Sample where
  node := n.name
  cpuCapacity := amount millicores? (n.capacity.lookup Node.cpu)
  cpuUsage := amount millicores? (some u.cpu)
  memoryCapacity := amount megabytes? (n.capacity.lookup Node.memory)
  memoryUsage := amount megabytes? (some u.memory)

end Sample

/-- Sums over the nodes of a cluster. -/
structure Totals where
  cpuCapacity : Int
  cpuUsage : Int
  memoryCapacity : Int
  memoryUsage : Int
  deriving DecidableEq, Repr

namespace Totals

def zero : Totals := ⟨0, 0, 0, 0⟩

/-- The nearest number within 64 bits. -/
def clamp (i : Int) : Int := max minInt64 (min i maxInt64)

def add (t : Totals) (s : Sample) : Totals where
  cpuCapacity := clamp (t.cpuCapacity + s.cpuCapacity)
  cpuUsage := clamp (t.cpuUsage + s.cpuUsage)
  memoryCapacity := clamp (t.memoryCapacity + s.memoryCapacity)
  memoryUsage := clamp (t.memoryUsage + s.memoryUsage)

/-- The sums over some nodes, added one after the other. -/
def ofSamples (samples : List Sample) : Totals := samples.foldl add zero

/-- Usage in relation to capacity; negative usage counts as none and capacity as at least one. -/
def utilization (usage capacity : Int) : Binary64 :=
  (Binary64.ofInt (max usage 0)).div (Binary64.ofInt (max capacity 1))

def cpuUtilization (t : Totals) : Binary64 := utilization t.cpuUsage t.cpuCapacity

def memoryUtilization (t : Totals) : Binary64 := utilization t.memoryUsage t.memoryCapacity

/-- The sums with capacities of at least one. -/
def atLeastOne (t : Totals) : Totals :=
  { t with cpuCapacity := max t.cpuCapacity 1, memoryCapacity := max t.memoryCapacity 1 }

def toJson (t : Totals) : Json :=
  .obj [("cpu_capacity", .int t.cpuCapacity), ("cpu_usage", .int t.cpuUsage),
    ("memory_capacity", .int t.memoryCapacity), ("memory_usage", .int t.memoryUsage)]

/-- Reads totals; all four must be given. -/
def ofJson : Json.Decoder Totals :=
  Json.Decode.record "totals"
    [["cpu_capacity"], ["cpu_usage"], ["memory_capacity"], ["memory_usage"]] fun f => do
    return ⟨← f.required 0 "cpu_capacity" Json.Decode.int64,
      ← f.required 1 "cpu_usage" Json.Decode.int64,
      ← f.required 2 "memory_capacity" Json.Decode.int64,
      ← f.required 3 "memory_usage" Json.Decode.int64⟩

/-- The patch that stores all four sums. -/
def patch (t : Totals) : Status.Patch where
  cpuUsage := some t.cpuUsage
  memoryUsage := some t.memoryUsage
  cpuCapacity := some t.cpuCapacity
  memoryCapacity := some t.memoryCapacity

end Totals

/-- What was seen of a cluster's nodes: the sums over those whose usage could be read, the number of
all nodes and the number of those left out. -/
structure Observation where
  totals : Totals
  nodeCount : Nat
  skippedNodes : Nat
  deriving DecidableEq, Repr

namespace Observation

/-- A cluster of that many nodes, of which none has been looked at. -/
def start (nodeCount : Nat) : Observation := ⟨.zero, nodeCount, 0⟩

/-- Takes in a node and the answer to the question for its usage. -/
def add (o : Observation) (n : Node) : Except Error Usage → Observation
  | .ok u => { o with totals := o.totals.add (.of n u) }
  | .error _ => { o with skippedNodes := o.skippedNodes + 1 }

end Observation
end MultiCluster
