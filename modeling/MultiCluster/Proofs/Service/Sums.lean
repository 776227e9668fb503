import Mathlib.Algebra.Order.BigOperators.Group.List
import Mathlib.Algebra.Order.Ring.Int
import MultiCluster.Proofs.Flow.Answered
import MultiCluster.Proofs.Service.Look

/-! What is summed up over the nodes of a cluster: the sums stop at the greatest number of 64 bits,
and as long as nothing is negative they do not depend on the order of the nodes, nor on how the
nodes are split up. -/
namespace MultiCluster

/-- What is summed up over nodes. -/
inductive Dimension where
  | cpuCapacity
  | cpuUsage
  | memoryCapacity
  | memoryUsage

instance {P : Dimension → Prop} [DecidablePred P] : Decidable (∀ d, P d) :=
  decidable_of_iff (P .cpuCapacity ∧ P .cpuUsage ∧ P .memoryCapacity ∧ P .memoryUsage)
    ⟨fun h d => by cases d <;> simp [h], fun h => ⟨h _, h _, h _, h _⟩⟩

namespace Dimension

/-- Whole units that a node contributes, of its own capacity or of its own usage. What is missing or
cannot be read counts as zero. -/
def units : Dimension → Node → Usage → Int
  | cpuCapacity, n, _ => ((n.capacity.lookup "cpu").bind millicores?).getD 0
  | cpuUsage, _, u => (millicores? u.cpu).getD 0
  | memoryCapacity, n, _ => ((n.capacity.lookup "memory").bind megabytes?).getD 0
  | memoryUsage, _, u => (megabytes? u.memory).getD 0

end Dimension

def Sample.get (s : Sample) : Dimension → Int
  | .cpuCapacity => s.cpuCapacity
  | .cpuUsage => s.cpuUsage
  | .memoryCapacity => s.memoryCapacity
  | .memoryUsage => s.memoryUsage

theorem Sample.get_of (n : Node) (u : Usage) (d : Dimension) : (of n u).get d = d.units n u := by
  cases d <;> rfl

namespace Totals

def get (t : Totals) : Dimension → Int
  | .cpuCapacity => t.cpuCapacity
  | .cpuUsage => t.cpuUsage
  | .memoryCapacity => t.memoryCapacity
  | .memoryUsage => t.memoryUsage

theorem eq_of_get {t u : Totals} (h : ∀ d, t.get d = u.get d) : t = u := by
  cases t
  cases u
  rw [mk.injEq]
  exact ⟨h .cpuCapacity, h .cpuUsage, h .memoryCapacity, h .memoryUsage⟩

theorem get_add (t : Totals) (s : Sample) (d : Dimension) :
    (t.add s).get d = clamp (t.get d + s.get d) := by
  cases d <;> rfl

/-- Two sums over parts, put together. -/
def combine (t u : Totals) : Totals where
  cpuCapacity := clamp (t.cpuCapacity + u.cpuCapacity)
  cpuUsage := clamp (t.cpuUsage + u.cpuUsage)
  memoryCapacity := clamp (t.memoryCapacity + u.memoryCapacity)
  memoryUsage := clamp (t.memoryUsage + u.memoryUsage)

theorem get_combine (t u : Totals) (d : Dimension) :
    (t.combine u).get d = clamp (t.get d + u.get d) := by
  cases d <;> rfl

theorem clamp_of_nonneg {i : Int} (h : 0 ≤ i) : clamp i = min maxInt64 i := by
  have below : minInt64 ≤ 0 := by decide
  have above : 0 ≤ maxInt64 := by decide
  rw [clamp, min_comm, max_eq_right]
  exact below.trans (le_min above h)

/-- A sum stops at the bound once, however often it would pass it. -/
theorem get_foldl_add (d : Dimension) (samples : List Sample) (t : Totals)
    (hs : ∀ s ∈ samples, 0 ≤ s.get d) (h0 : 0 ≤ t.get d) (h1 : t.get d ≤ maxInt64) :
    (samples.foldl add t).get d = min maxInt64 (t.get d + (samples.map (·.get d)).sum) := by
  induction samples generalizing t with
  | nil => simp [min_eq_right h1]
  | cons s samples ih =>
    have hd : 0 ≤ s.get d := hs s (by simp)
    have rest : ∀ s ∈ samples, 0 ≤ s.get d := fun s h => hs s (by simp [h])
    have sum : 0 ≤ (samples.map (·.get d)).sum := List.sum_nonneg (List.forall_mem_map.2 rest)
    have first : (t.add s).get d = min maxInt64 (t.get d + s.get d) := by
      rw [get_add, clamp_of_nonneg (Int.add_nonneg h0 hd)]
    have above : 0 ≤ maxInt64 := by decide
    rw [List.foldl_cons, ih _ rest (by omega) (by omega), first, List.map_cons, List.sum_cons]
    omega

theorem get_ofSamples (d : Dimension) (samples : List Sample) (hs : ∀ s ∈ samples, 0 ≤ s.get d) :
    (ofSamples samples).get d = min maxInt64 (samples.map (·.get d)).sum := by
  have zero : zero.get d = 0 := by cases d <;> rfl
  rw [ofSamples, get_foldl_add d samples _ hs (by simp [zero]) (by rw [zero]; decide), zero,
    Int.zero_add]

end Totals

namespace Observation

/-- The nodes whose usage could be read, each with its own usage. -/
def measured (usage : String → Except Error Usage) (nodes : List Node) : List (Node × Usage) :=
  nodes.filterMap fun n => (usage n.name).toOption.map (n, ·)

/-- What is seen of some nodes: each of the four sums is over the same nodes, those whose usage could
be read. -/
structure IsOf (usage : String → Except Error Usage) (nodes : List Node) (o : Observation) :
    Prop where
  count : o.nodeCount = nodes.length
  skipped : o.skippedNodes = nodes.countP fun n => (usage n.name).toOption.isNone
  sums : ∀ d, o.totals.get d =
    min maxInt64 ((measured usage nodes).map fun x => d.units x.1 x.2).sum

/-- Two observations of parts, put together. -/
def combine (o p : Observation) : Observation :=
  ⟨o.totals.combine p.totals, o.nodeCount + p.nodeCount, o.skippedNodes + p.skippedNodes⟩

variable {usage : String → Except Error Usage} {nodes xs ys : List Node} {o p : Observation}

theorem IsOf.eq (h : o.IsOf usage nodes) (h' : p.IsOf usage nodes) : o = p := by
  obtain ⟨t, n, s⟩ := o
  obtain ⟨u, m, r⟩ := p
  obtain rfl : t = u := Totals.eq_of_get fun d => (h.sums d).trans (h'.sums d).symm
  rw [mk.injEq]
  exact ⟨rfl, h.count.trans h'.count.symm, h.skipped.trans h'.skipped.symm⟩

theorem IsOf.perm (h : o.IsOf usage xs) (hp : xs.Perm ys) : o.IsOf usage ys where
  count := h.count.trans hp.length_eq
  skipped := h.skipped.trans (hp.countP_eq _)
  sums d := by
    have same : (measured usage xs).Perm (measured usage ys) := hp.filterMap _
    rw [h.sums d, (same.map _).sum_eq]

/-- That no quantity of a node whose usage could be read is negative. -/
def NonNegative (usage : String → Except Error Usage) (nodes : List Node) : Prop :=
  ∀ x ∈ measured usage nodes, ∀ d : Dimension, 0 ≤ d.units x.1 x.2

instance : Decidable (NonNegative usage nodes) := inferInstanceAs (Decidable (∀ _ ∈ _, _))

theorem NonNegative.mono (h : NonNegative usage nodes) (hs : xs ⊆ nodes) :
    NonNegative usage xs := by
  intro x hx
  obtain ⟨n, hn, hu⟩ := List.mem_filterMap.1 hx
  exact h x (List.mem_filterMap.2 ⟨n, hs hn, hu⟩)

theorem NonNegative.perm (h : NonNegative usage xs) (hp : xs.Perm ys) : NonNegative usage ys :=
  h.mono hp.symm.subset

theorem IsOf.append (h : o.IsOf usage xs) (h' : p.IsOf usage ys)
    (hn : NonNegative usage (xs ++ ys)) : (o.combine p).IsOf usage (xs ++ ys) where
  count := by simp [combine, h.count, h'.count]
  skipped := by simp [combine, h.skipped, h'.skipped]
  sums d := by
    have parts : measured usage (xs ++ ys) = measured usage xs ++ measured usage ys :=
      List.filterMap_append
    have sum {zs : List (Node × Usage)} (hz : ∀ x ∈ zs, 0 ≤ d.units x.1 x.2) :
        0 ≤ (zs.map fun x => d.units x.1 x.2).sum := List.sum_nonneg (List.forall_mem_map.2 hz)
    rw [NonNegative, parts] at hn
    have front := sum fun x hx => hn x (List.mem_append_left _ hx) d
    have back := sum fun x hx => hn x (List.mem_append_right _ hx) d
    have above : 0 ≤ maxInt64 := by decide
    rw [combine, Totals.get_combine, h.sums, h'.sums, parts, List.map_append, List.sum_append,
      Totals.clamp_of_nonneg (by omega)]
    omega

theorem isOf_foldl (hn : NonNegative usage nodes) :
    (nodes.foldl (fun o n => o.add n (usage n.name)) (start nodes.length)).IsOf usage nodes := by
  have seen := Service.Look.foldl_add (nodes.map fun n => (n, usage n.name)) (start nodes.length)
  have samples : Service.Look.samples (nodes.map fun n => (n, usage n.name)) =
      (measured usage nodes).map fun x => .of x.1 x.2 := by
    simp only [Service.Look.samples, measured, List.filterMap_map, List.map_filterMap]
    simp [Function.comp_def]
  rw [List.foldl_map, samples] at seen
  rw [seen]
  constructor
  case count => rfl
  case skipped => simp [start, List.countP_map, Function.comp_def]
  case sums =>
    intro d
    have amounts (zs : List (Node × Usage)) : (zs.map fun x => Sample.of x.1 x.2).map (·.get d) =
        zs.map fun x => d.units x.1 x.2 := by simp [Function.comp_def, Sample.get_of]
    rw [← amounts]
    refine Totals.get_ofSamples d _ (List.forall_mem_map.2 fun x hx => ?_)
    rw [Sample.get_of]
    exact hn x hx d

end Observation

namespace Service

variable {c : Client} {usage : String → Except Error Usage} {nodes : List Node}

/-- Answers by which a cluster has some nodes, with the usage or the failure that goes with each
name. -/
structure Tells (answers : (c : Call) → c.Reply) (c : Client)
    (usage : String → Except Error Usage) (nodes : List Node) : Prop where
  nodes : answers (.nodes c) = .ok nodes
  usage : ∀ name, answers (.usage c name) = usage name

private theorem run_observeNodes {answers : (c : Call) → c.Reply}
    (h : ∀ name, answers (.usage c name) = usage name) (o : Observation) (nodes : List Node)
    (said : List Exchange) : ((observeNodes c o nodes).run (Call.answered answers) said).1 =
      nodes.foldl (fun o n => o.add n (usage n.name)) o := by
  induction nodes generalizing o said with
  | nil => rfl
  | cons n nodes ih =>
    rw [observeNodes, List.foldl_cons, ← h, ← ih]
    rfl

theorem result_observe {answers : (c : Call) → c.Reply} (h : Tells answers c usage nodes) :
    (observe c).result answers =
      .ok (nodes.foldl (fun o n => o.add n (usage n.name)) (.start nodes.length)) := by
  have listed : (Action.nodes c).result answers = .ok nodes := h.nodes
  rw [observe, Action.result_bind, listed]
  exact (Action.result_lift answers _).trans (congrArg Except.ok (run_observeNodes h.usage _ _ _))

/-- What a look at the nodes of a cluster comes to. -/
structure Summed (c : Client) (usage : String → Except Error Usage) (nodes : List Node)
    (o : Observation) : Prop extends o.IsOf usage nodes where
  /-- The same is seen in whatever order the nodes are listed. -/
  seen : ∀ answers listed, nodes.Perm listed → Tells answers c usage listed →
    (observe c).result answers = .ok o
  /-- The same is seen by looking at two parts. -/
  parts : ∀ answers answers' xs ys, nodes.Perm (xs ++ ys) → Tells answers c usage xs →
    Tells answers' c usage ys → ∃ p q, (observe c).result answers = .ok p ∧
      (observe c).result answers' = .ok q ∧ o = p.combine q

/-- A look at nodes of which none has a negative quantity comes to their sums. -/
theorem observe_summed (h : Observation.NonNegative usage nodes) :
    ∃ o, Summed c usage nodes o := by
  have sums {listed : List Node} (hn : Observation.NonNegative usage listed)
      {answers : (c : Call) → c.Reply} (ht : Tells answers c usage listed) :
      ∃ o, (observe c).result answers = .ok o ∧ o.IsOf usage listed :=
    ⟨_, result_observe ht, Observation.isOf_foldl hn⟩
  have all := Observation.isOf_foldl h
  refine ⟨_, all, fun answers listed hp ht => ?_, fun answers answers' xs ys hp hx hy => ?_⟩
  · obtain ⟨o, ho, hs⟩ := sums (h.perm hp) ht
    rw [ho, hs.eq (all.perm hp)]
  · have hn := h.perm hp
    obtain ⟨p, hp', hps⟩ := sums (hn.mono (List.subset_append_left xs ys)) hx
    obtain ⟨q, hq', hqs⟩ := sums (hn.mono (List.subset_append_right xs ys)) hy
    exact ⟨p, q, hp', hq', (all.perm hp).eq (hps.append hqs hn)⟩

/-- Two nodes of one name with a quantity that fills the word and one that cannot be read, one
without name and capacity, and one whose usage cannot be read. -/
theorem observe_summed_of_four :
    let node (name : String) (capacity : List (String × String)) : Node :=
      ⟨name, [], none, capacity, [], [], [], "", "", "", ""⟩
    let usage (name : String) : Except Error Usage :=
      if name = "lost" then .error (.internal "down") else
        .ok ⟨name, "9223372036854775807", "2Gi", ""⟩
    let nodes := [node "twin" [("cpu", "9223372036854775807"), ("memory", "4Gi")],
      node "twin" [("cpu", "much")], node "" [], node "lost" [("cpu", "8")]]
    Observation.NonNegative usage nodes ∧ ∃ o, Summed ⟨0⟩ usage nodes o :=
  ⟨by decide, observe_summed (by decide)⟩

end Service
end MultiCluster
