import MultiCluster.Call
import MultiCluster.Identifier
import MultiCluster.Kube.Client
import MultiCluster.Metric.Endpoint
import MultiCluster.Store

/-! Surroundings that answer by script: member clusters, a registry with faults and monitoring. What
they are asked is kept in a journal. -/
namespace MultiCluster.Scenario

/-- How a member cluster behaves. Its nodes come after a delay in milliseconds; requests are
answered by the replies in turn, if it takes requests at all. -/
structure Behaviour where
  connectError : Option Error
  nodes : Except Error (List Node)
  delay : Nat
  usage : List (String × Except Error (String × String))
  version : Except Error String
  replies : Option (List Kube.Reply)

def Behaviour.usageOf (b : Behaviour) (node : String) : Except Error Usage :=
  match b.usage.lookup node with
  | none => .error (.internal s!"no node {node}")
  | some (.error e) => .error e
  | some (.ok (cpu, memory)) => .ok { node, cpu, memory, timestamp := "" }

def Behaviour.versionOf (b : Behaviour) : Except Error Kube.Version :=
  b.version.map fun gitVersion =>
    { server := "", gitVersion, gitCommit := "", buildDate := "", platform := "" }

/-- What a scripted cluster answers when no reply is left. -/
def unscripted : Kube.Reply := .answer 500 "unscripted" 0

/-- The next reply of a behaviour and the behaviour with the others. -/
def Behaviour.nextReply (b : Behaviour) : Kube.Reply × Behaviour :=
  match b.replies with
  | some (r :: rest) => (r, { b with replies := some rest })
  | _ => (unscripted, b)

/-- Which calls of the registry fail, whatever it holds. -/
structure Faults where
  list : Option Error
  get : List (String × Error)
  patch : List (String × Error)
  create : Option Error
  /-- So many clusters to come are taken for registered. -/
  conflicts : Nat

/-- The fault that a call of the registry meets. -/
def Faults.of (f : Faults) : Registry.Call → Option Error
  | .list => f.list
  | .get id => f.get.lookup id
  | .create id _ => if f.conflicts > 0 then some (Registry.conflict id) else f.create
  | .patch id _ => f.patch.lookup id

/-- What monitoring answers to expressions that contain a text; series may depend on the start. -/
structure Rule where
  contained : String
  result : Except Error (List Series)

/-- How monitoring behaves. The first rule that fits decides. -/
structure Monitoring where
  connectError : Option Error
  rules : List Rule

/-- Whether one text occurs in another. -/
def occursIn (part : List Char) : List Char → Bool
  | [] => part.isEmpty
  | c :: rest => part.isPrefixOf (c :: rest) || occursIn part rest

/-- The series that monitoring answers where no rule fits: one point at the start. -/
def defaultSeries (q : Metric.RangeQuery) : Series :=
  ⟨[("node", "worker-1")], [⟨.ofInt q.start, .ofFraction false 1 2⟩]⟩

def Monitoring.answer (m : Monitoring) (q : Metric.RangeQuery) : Except Error (List Series) :=
  match m.rules.find? fun r => occursIn r.contained.toList q.expression.toList with
  | some r => r.result
  | none => .ok [defaultSeries q]

/-- What answers requests to real addresses. -/
structure Network where
  reply : Kube.Request → Kube.Reply
  fetch : Url → Option (Nat × List UInt8)

/-- A network on which nothing can be reached. -/
def Network.down : Network := ⟨fun _ => .broken, fun _ => none⟩

/-- What has been asked since the journal was opened. -/
structure Journal where
  connects : Nat
  patches : List (String × Json)
  creates : List String
  endpoints : List String
  queries : List Metric.RangeQuery
  requests : List Kube.Request

/-- Nothing has been asked. -/
def Journal.blank : Journal := ⟨0, [], [], [], [], []⟩

/-- What a client leads to: a scripted cluster, by its number, or a server on the network. -/
inductive Handle where
  | scripted (behaviour : Nat)
  | remote (client : Kube.Client)

/-- The surroundings. Kubeconfigs lead to behaviours by their number; clients and monitors are
numbered as they are made. With a network, clients and monitors are real ones. -/
structure World where
  behaviours : List Behaviour
  assigned : List (String × Nat)
  store : Store
  faults : Faults
  monitoring : Monitoring
  network : Option Network
  handles : List Handle
  monitors : List Metric.Endpoint
  /-- The number of the id that is given next. -/
  nextId : Nat
  journal : Journal

namespace World

/-- A kubeconfig that leads to a behaviour from now on. -/
def assign (w : World) (kubeconfig : String) (b : Behaviour) : World :=
  { w with
    behaviours := w.behaviours ++ [b]
    assigned := (kubeconfig, w.behaviours.length) :: w.assigned }

/-- A kubeconfig that leads nowhere from now on. -/
def unassign (w : World) (kubeconfig : String) : World :=
  { w with assigned := w.assigned.filter fun a => a.1 != kubeconfig }

/-- The behaviour behind a client. -/
def behaviour? (w : World) (c : Client) : Option Behaviour :=
  match w.handles[c.number]? with
  | some (.scripted n) => w.behaviours[n]?
  | _ => none

def noteRegistry (w : World) : Registry.Call → World
  | .list | .get _ => w
  | .create id _ => { w with
      faults := { w.faults with conflicts := w.faults.conflicts - 1 }
      journal := { w.journal with creates := w.journal.creates ++ [id] } }
  | .patch id p => { w with
      journal := { w.journal with patches := w.journal.patches ++ [(id, p.document)] } }

def serveRegistry (now : String) (c : Registry.Call) : StateM World c.Reply := fun w =>
  let noted := w.noteRegistry c
  match w.faults.of c with
  | some e => (c.fail e, noted)
  | none =>
    let (reply, store) := Store.serve now c w.store
    (reply, { noted with store })

/-- A client with the next number. -/
def addHandle (h : Handle) : StateM World Client := fun w =>
  (⟨w.handles.length⟩, { w with handles := w.handles ++ [h] })

/-- How long a request to a member cluster may take, in seconds. -/
def requestLimit : Nat := 30

def connect (m : Member) : StateM World (Except Error Client) := do
  modify fun w => { w with journal := { w.journal with connects := w.journal.connects + 1 } }
  let w ← get
  if w.network.isSome then
    let limit := .ofSeconds requestLimit
    match Kube.Client.ofKubeconfig m.kubeconfig none m.id m.displayName limit with
    | .error e => return .error e
    | .ok client => return .ok (← addHandle (.remote client))
  else
    match w.assigned.lookup m.kubeconfig with
    | none => return .error (.invalidCredential m.id "unparseable kubeconfig")
    | some n =>
      match w.behaviours[n]?.bind (·.connectError) with
      | some e => return .error e
      | none => return .ok (← addHandle (.scripted n))

/-- What a cluster answers that is not there any more. -/
def gone : Error := .internal "no such client"

/-- Goes on with what a client leads to. -/
def through {α : Type} (c : Client) (scripted : Behaviour → Except Error α)
    (remote : Kube.Client → Kube.Transport World → StateM World (Except Error α)) :
    StateM World (Except Error α) := do
  let w ← get
  match w.handles[c.number]?, w.network with
  | some (.scripted n), _ => return (w.behaviours[n]?.map scripted).getD (.error gone)
  | some (.remote client), some network => remote client fun r => return network.reply r
  | _, _ => return .error gone

def send (c : Client) (r : Kube.Request) : StateM World Kube.Reply := fun w =>
  match w.handles[c.number]?, w.network with
  | some (.scripted n), _ =>
    let noted := { w with journal := { w.journal with requests := w.journal.requests ++ [r] } }
    match w.behaviours[n]? with
    | none => (.broken, noted)
    | some b =>
      let (reply, rest) := b.nextReply
      (reply, { noted with behaviours := w.behaviours.set n rest })
  | some (.remote client), some network => (network.reply (r.under client.server.base), w)
  | _, _ => (.broken, w)

/-- Answers whether requests can be sent to a member cluster. -/
def access (c : Client) : StateM World (Except Error Unit) :=
  through c
    (fun b =>
      if b.replies.isSome then .ok () else .error (.internal "fake clusters have no kube client"))
    fun _ _ => return .ok ()

def monitor (endpoint : String) : StateM World (Except Error Monitor) := do
  let w ← get
  match w.network with
  | some network =>
    let connected ← Metric.Endpoint.connect (fun url => return network.fetch url) endpoint
    match connected with
    | .error e => return .error e
    | .ok e =>
      set { w with monitors := w.monitors ++ [e] }
      return .ok ⟨w.monitors.length⟩
  | none =>
    set { w with journal := { w.journal with endpoints := w.journal.endpoints ++ [endpoint] } }
    match w.monitoring.connectError with
    | some e => return .error e
    | none => return .ok ⟨0⟩

def query (m : Monitor) (q : Metric.RangeQuery) : StateM World (Except Error (List Series)) := do
  let w ← get
  match w.network with
  | some network =>
    match w.monitors[m.number]? with
    | some e => e.query (fun url => return network.fetch url) q
    | none => return .error gone
  | none =>
    set { w with journal := { w.journal with queries := w.journal.queries ++ [q] } }
    return w.monitoring.answer q

/-- Answers any question, at the given time of day. -/
def serve (now : String) : (c : Call) → StateM World c.Reply
  | .registry c => serveRegistry now c
  | .freshId => fun w => (Identifier.nth w.nextId, { w with nextId := w.nextId + 1 })
  | .clock => return now
  | .connect m => connect m
  | .nodes c => through c (·.nodes) fun client send => client.nodes send
  | .usage c node => through c (·.usageOf node) fun client send => client.usage send node
  | .version c => through c (·.versionOf) fun client send => client.version send
  | .access c => access c
  | .send c r => send c r
  | .monitor endpoint => monitor endpoint
  | .query m q => query m q

/-- How many milliseconds a reply takes; some never come. -/
def replyDelay? : Kube.Reply → Option Nat
  | .answer _ _ delay => some delay
  | .silence => none
  | .broken => some 0

/-- How many milliseconds a question takes; some are never answered. -/
def duration? (w : World) : Call → Option Nat
  | .nodes c => some (((w.behaviour? c).map Behaviour.delay).getD 0)
  | .send c _ =>
    match w.behaviour? c with
    | some b => replyDelay? b.nextReply.1
    | none => some 0
  | _ => some 0

end World
end MultiCluster.Scenario
