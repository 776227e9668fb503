import MultiCluster.Member
import MultiCluster.Totals

/-! Members of the registry together with what was just seen of them. -/
namespace MultiCluster

/-- A member in a listing. -/
structure Summary where
  member : Member
  health : Health
  version : Option String
  nodeCount : Nat
  totals : Totals
  cpuUtilization : Binary64
  memoryUtilization : Binary64
  deriving DecidableEq, Repr

namespace Summary

/-- A member that could not be looked at. -/
def abnormal (m : Member) : Summary :=
  ⟨m, .abnormal, none, 0, .zero, .zero false, .zero false⟩

/-- A member that was looked at. Capacities are reported as at least one. -/
def observed (m : Member) (totals : Totals) (nodeCount : Nat) (version : Option String) : Summary :=
  let t := totals.atLeastOne
  ⟨m, .normal, version, nodeCount, t, t.cpuUtilization, t.memoryUtilization⟩

/-- The summary whose member has the health just found. -/
def settled (s : Summary) : Summary :=
  { s with member := { s.member with status := { s.member.status with health := s.health } } }

def toJson (s : Summary) : Json :=
  .obj (s.member.jsonMembers ++ [("health_status", s.health.toJson),
    ("version", .ofText? s.version), ("node_count", .int s.nodeCount), ("totals", s.totals.toJson),
    ("cpu_utilization", .real s.cpuUtilization),
    ("memory_utilization", .real s.memoryUtilization)])

end Summary

/-- A member and its nodes. -/
structure Detail where
  member : Member
  nodes : List Node
  deriving DecidableEq, Repr

def Detail.toJson (d : Detail) : Json :=
  .obj (d.member.jsonMembers ++ [("nodes", .arr (d.nodes.map Node.toJson))])

end MultiCluster
