import MultiCluster.Job
import MultiCluster.Summary

/-! Looking at a cluster: its nodes, their usage and its version. -/
namespace MultiCluster.Service

/-- Asks for the usage of the nodes one after the other and takes it in. -/
def observeNodes (c : Client) (seen : Observation) : List Node → Job Observation
  | [] => .done seen
  | n :: rest => do
    let usage ← Job.question (.usage c n.name)
    observeNodes c (seen.add n usage) rest

/-- Sums up the nodes of a cluster. Fails only if they cannot be listed. -/
def observe (c : Client) : Action Observation := do
  let nodes ← Action.nodes c
  ExceptT.lift (observeNodes c (.start nodes.length) nodes)

/-- A member with what is seen of it. One without a client or a list of nodes is abnormal; one
without a version is not. -/
def summarize (m : Member) : Job Summary := do
  match ← (Action.client m.id).run with
  | .error _ => return .abnormal m
  | .ok c =>
    match ← (observe c).run with
    | .error _ => return .abnormal m
    | .ok seen =>
      let version ← Job.question (.version c)
      return .observed m seen.totals seen.nodeCount (version.toOption.map (·.gitVersion))

/-- A member with what is seen of it, after its health has been stored. Whether that worked is of no
consequence. -/
def inspect (m : Member) : Job Summary := do
  let s ← summarize m
  let _ ← Job.question (.registry (.patch s.member.id (.ofHealth s.health)))
  return s.settled

end MultiCluster.Service
