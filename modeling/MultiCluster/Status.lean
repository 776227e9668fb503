import MultiCluster.Health

/-! The last known state of a member cluster and the patches that change it. -/
namespace MultiCluster

/-- Totals as last reported, in thousandths of a core and in megabytes, and health. -/
structure Status where
  cpuCapacity : Int
  memoryCapacity : Int
  cpuUsage : Int
  memoryUsage : Int
  health : Health
  deriving DecidableEq, Repr

namespace Status

def initial : Status := ⟨0, 0, 0, 0, .unknown⟩

def toJson (s : Status) : Json :=
  .obj [("cpu_capacity", .int s.cpuCapacity), ("memory_capacity", .int s.memoryCapacity),
    ("cpu_usage", .int s.cpuUsage), ("memory_usage", .int s.memoryUsage),
    ("health", s.health.toJson)]

/-- Reads a status; what is not given has its initial value. -/
def ofJson : Json.Decoder Status :=
  let names := [["cpu_capacity"], ["memory_capacity"], ["cpu_usage"], ["memory_usage"], ["health"]]
  Json.Decode.record "a status" names fun f => do
    return {
      cpuCapacity := ← f.withDefault 0 Json.Decode.int64 0
      memoryCapacity := ← f.withDefault 1 Json.Decode.int64 0
      cpuUsage := ← f.withDefault 2 Json.Decode.int64 0
      memoryUsage := ← f.withDefault 3 Json.Decode.int64 0
      health := ← f.withDefault 4 Health.ofJson .unknown }

/-- New values for some of the fields. -/
structure Patch where
  cpuUsage : Option Int := none
  memoryUsage : Option Int := none
  cpuCapacity : Option Int := none
  memoryCapacity : Option Int := none
  health : Option Health := none
  deriving DecidableEq, Repr

namespace Patch

def apply (p : Patch) (s : Status) : Status where
  cpuCapacity := p.cpuCapacity.getD s.cpuCapacity
  memoryCapacity := p.memoryCapacity.getD s.memoryCapacity
  cpuUsage := p.cpuUsage.getD s.cpuUsage
  memoryUsage := p.memoryUsage.getD s.memoryUsage
  health := p.health.getD s.health

def ofHealth (h : Health) : Patch := { health := some h }

/-- A member of the document for a field that the patch names. -/
def documentMember (key : String) : Option Json → List (String × Json)
  | some value => [(key, value)]
  | none => []

def toJson (p : Patch) : Json :=
  .obj (documentMember "cpu_usage" (p.cpuUsage.map .int)
    ++ documentMember "memory_usage" (p.memoryUsage.map .int)
    ++ documentMember "cpu_capacity" (p.cpuCapacity.map .int)
    ++ documentMember "memory_capacity" (p.memoryCapacity.map .int)
    ++ documentMember "health" (p.health.map Health.toJson))

/-- The merge patch document for an object that has the status as a member. -/
def document (p : Patch) : Json := .obj [("status", p.toJson)]

end Patch
end Status
end MultiCluster
