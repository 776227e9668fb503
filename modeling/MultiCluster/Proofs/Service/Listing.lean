import MultiCluster.Proofs.Service.Look
import MultiCluster.Service.Listing

/-! What a listing reports and stores, whatever fails and in whatever order clusters answer. -/
namespace MultiCluster.Service

/-- An inspection of a member: how far looking at it got, how asking for its version ends if it
comes to that, and how storing its health ends. -/
structure Inspection where
  member : Member
  look : Look
  version : Except Error Kube.Version
  stored : Except Error Unit

namespace Inspection

/-- The health that is found. -/
def health (i : Inspection) : Health := if i.look.seen?.isSome then .normal else .abnormal

/-- The member with the health that is found. -/
def settled (i : Inspection) : Member :=
  { i.member with status := { i.member.status with health := i.health } }

/-- What is said about the version, for which only clusters with listed nodes are asked. -/
def aboutVersion (i : Inspection) : List Exchange :=
  match i.look.seen? with
  | none => []
  | some (c, _) => [⟨.version c, i.version⟩]

/-- All that is said: what looking at the member takes, what there is about its version, and one
patch of the health alone. -/
def exchanges (i : Inspection) : List Exchange :=
  i.look.exchanges i.member ++ i.aboutVersion ++
    [⟨.registry (.patch i.member.id { health := some i.health }), i.stored⟩]

/-- What is reported. Capacities are at least one, and usage is set in relation to them. -/
def summary (i : Inspection) : Summary :=
  match i.look.seen? with
  | none => {
      member := i.settled
      health := i.health
      version := none
      nodeCount := 0
      totals := .zero
      cpuUtilization := .zero false
      memoryUtilization := .zero false }
  | some (_, o) => {
      member := i.settled
      health := i.health
      version := i.version.toOption.map (·.gitVersion)
      nodeCount := o.nodeCount
      totals := {
        cpuCapacity := max 1 o.totals.cpuCapacity
        cpuUsage := o.totals.cpuUsage
        memoryCapacity := max 1 o.totals.memoryCapacity
        memoryUsage := o.totals.memoryUsage }
      cpuUtilization := (Binary64.ofInt (max 0 o.totals.cpuUsage)).div
        (Binary64.ofInt (max 1 o.totals.cpuCapacity))
      memoryUtilization := (Binary64.ofInt (max 0 o.totals.memoryUsage)).div
        (Binary64.ofInt (max 1 o.totals.memoryCapacity)) }

/-- The record that is left: the health is stored, or nothing is. -/
def left (i : Inspection) : Member :=
  match i.stored with
  | .ok () => i.settled
  | .error _ => i.member

/-- A cluster is reported as abnormal just when its record was not given, or no client was had for
it, or its nodes were not listed. -/
theorem health_summary_iff (i : Inspection) : i.summary.health = .abnormal ↔
    (∃ e, (⟨.registry (.get i.member.id), .error e⟩ : Exchange) ∈ i.exchanges) ∨
      (∃ e, (⟨.connect i.member, .error e⟩ : Exchange) ∈ i.exchanges) ∨
      ∃ c e, (⟨.nodes c, .error e⟩ : Exchange) ∈ i.exchanges := by
  obtain ⟨m, look, version, stored⟩ := i
  cases look <;> simp [summary, health, exchanges, aboutVersion, Look.seen?, Look.exchanges]

end Inspection

theorem inspect_eq (m : Member) : inspect m = (summarize m).bind fun s =>
    .ask (.registry (.patch s.member.id (.ofHealth s.health))) fun _ => .done s.settled := rfl

theorem inspect_asks (m : Member) : (inspect m).Asks (Call.IsAbout m.id) := by
  rw [inspect_eq, summarize_eq, Job.bind_assoc]
  refine (attempt_isAbout m.id).bind fun seen => ?_
  cases seen with
  | none => exact ⟨rfl, fun _ => trivial⟩
  | some seen => exact ⟨trivial, fun _ => ⟨rfl, fun _ => trivial⟩⟩

/-- A summary before the health is stored. -/
private theorem runs_summarize {m : Member} {s t : Store} {es : List Exchange} {x : Summary}
    (h : (summarize m).Runs s es x t) (hm : s.get? m.id = some m) :
    t = s ∧ ∃ look version, ∀ stored, ∃ i : Inspection, i = ⟨m, look, version, stored⟩ ∧
      es = i.look.exchanges m ++ i.aboutVersion ∧ x.member = m ∧ x.health = i.health ∧
      x.settled = i.summary := by
  rw [summarize_eq] at h
  obtain ⟨as, vs, seen, u, rfl, ha, hv⟩ := Job.runs_bind_iff.1 h
  obtain ⟨rfl, look, rfl, rfl⟩ := runs_attempt ha hm
  cases hs : look.seen? with
  | none =>
    rw [hs] at hv
    obtain ⟨rfl, rfl, rfl⟩ := Job.runs_done_iff.1 hv
    refine ⟨rfl, look, .error (.internal ""), fun stored => ⟨_, rfl, ?_⟩⟩
    simp [Inspection.aboutVersion, Inspection.health, Inspection.summary, Inspection.settled,
      Summary.settled, Summary.abnormal, hs]
  | some seen =>
    rw [hs] at hv
    obtain ⟨version, w, ws, rfl, answer, hd⟩ := Job.runs_ask_iff.1 hv
    obtain rfl : w = u := answer.outside fun _ => Call.noConfusion
    obtain ⟨rfl, rfl, rfl⟩ := Job.runs_done_iff.1 hd
    refine ⟨rfl, look, version, fun stored => ⟨_, rfl, ?_⟩⟩
    simp [Inspection.aboutVersion, Inspection.health, Inspection.summary, Inspection.settled,
      Summary.settled, Summary.observed, Totals.atLeastOne, Totals.cpuUtilization,
      Totals.memoryUtilization, Totals.utilization, Int.max_comm, hs]

/-- The job of an inspection takes the course of some inspection and leaves the record as that one
does. -/
theorem runs_inspect {m : Member} {s t : Store} {es : List Exchange} {x : Summary}
    (h : (inspect m).Runs s es x t) (hm : s.get? m.id = some m) :
    ∃ i : Inspection, i.member = m ∧ i.exchanges = es ∧ i.summary = x ∧
      t.get? m.id = some i.left := by
  rw [inspect_eq] at h
  obtain ⟨fs, gs, y, u, rfl, hy, hp⟩ := Job.runs_bind_iff.1 h
  obtain ⟨rfl, look, version, hi⟩ := runs_summarize hy hm
  obtain ⟨r, w, ds, rfl, answer, hd⟩ := Job.runs_ask_iff.1 hp
  obtain ⟨rfl, rfl, rfl⟩ := Job.runs_done_iff.1 hd
  obtain ⟨i, rfl, rfl, hmem, hh, hsum⟩ := hi r
  refine ⟨_, rfl, ?_, hsum.symm, ?_⟩
  · simp [Inspection.exchanges, hmem, hh, Status.Patch.ofHealth]
  · obtain ⟨rfl, rfl⟩ | ⟨⟨e, rfl⟩, rfl⟩ := answer.patch
    · rw [hmem, Store.get?_patch, hm, Option.map_some, Store.patchMember_self]
      simp [Inspection.left, Inspection.settled, Status.Patch.ofHealth, Status.Patch.apply, hh]
    · simpa [Inspection.left] using hm

/-- What a listing over a store comes to: the page, the inspections that were made in the order of
the members, what was said behind the list of members, and the store that is left. -/
structure Listed (request : PageRequest) (s : Store) (page : Page Summary)
    (inspections : List Inspection) (said : List Exchange) (s' : Store) : Prop where
  /-- Every member of the page is inspected once, and no other. -/
  members : inspections.map (·.member) = request.slice s.members
  page : page = ⟨inspections.map (·.summary), s.members.length, request⟩
  /-- A cluster is abnormal just when looking at it failed in this very call. -/
  abnormal : ∀ i ∈ inspections, i.summary.health = .abnormal ↔
    (∃ e, (⟨.registry (.get i.member.id), .error e⟩ : Exchange) ∈ i.exchanges) ∨
      (∃ e, (⟨.connect i.member, .error e⟩ : Exchange) ∈ i.exchanges) ∨
      ∃ c e, (⟨.nodes c, .error e⟩ : Exchange) ∈ i.exchanges
  /-- Nothing is said but what the inspections say, in some order. -/
  said : said.Perm (inspections.flatMap (·.exchanges))
  /-- Each inspected member is left as its inspection leaves it. -/
  left : ∀ i ∈ inspections, s'.get? i.member.id = some i.left
  /-- All others are left alone. -/
  others : ∀ id, id ∉ inspections.map (·.member.id) → s'.get? id = s.get? id
  ids : s'.ids = s.ids

/-- A page holds items of the list in their order. -/
theorem slice_sublist {α : Type} (request : PageRequest) (items : List α) :
    (request.slice items).Sublist items :=
  (List.drop_sublist _ _).trans (List.take_sublist _ _)

theorem slice_map {α β : Type} (request : PageRequest) (f : α → β) (items : List α) :
    request.slice (items.map f) = (request.slice items).map f := by
  simp only [PageRequest.slice, List.length_map, List.map_drop, List.map_take]

/-- A listing whose list of members is answered gives a page under any schedule, whatever else fails
and however answers are ordered. -/
theorem listing_listed (limit : Nat) (request : PageRequest) (s : Store) (schedule : Nat → Turn)
    (h : (schedule 0).fault = none) :
    ∃ n page inspections said w,
      (listing limit request).turns schedule n ⟨s, []⟩ = (.done (.ok page), w) ∧
        w.past = ⟨.registry .list, .ok s.members⟩ :: said ∧
        Listed request s page inspections said w.store := by
  have hid : ((request.slice s.members).map (·.id)).Nodup :=
    s.nodup_ids.sublist ((slice_sublist request s.members).map _)
  obtain ⟨n, said, solos, w, hn, hp, ha⟩ := Flow.pool_apart (α := Except Error (Page Summary))
    (Nat.le_max_right limit 1) .inOrder hid inspect_asks
    (fun summaries => .done (.ok ⟨summaries, s.members.length, request⟩))
    (fun k => schedule (k + 1)) ⟨s, [⟨.registry .list, .ok s.members⟩]⟩
  obtain ⟨inspections, hm, hv, hs, hl, ho⟩ := ha.described runs_inspect
    (slice_sublist request s.members).subset
  refine ⟨n + 1, _, inspections, said, w, ?_, hp, {
    members := hm
    page := rfl
    abnormal := fun i _ => i.health_summary_iff
    said := hs
    left := hl
    others := ho
    ids := ha.ids }⟩
  rw [hv, Flow.turns_succ, listing, Flow.turn_ask, Turn.serve_list h]
  exact hn

/-- The second page of three members has one of them, whose health is not stored. -/
theorem listing_listed_of_three :
    let s := Store.ofList (["lab", "core", "edge"].map fun id => .new id ⟨"config", id, ""⟩ none)
    let schedule : Nat → Turn := fun k =>
      { Turn.plain with fault := if k = 5 then some (.internal "down") else none }
    (schedule 0).fault = none ∧
      ∃ n page inspections said w, (listing 4 ⟨2, 2⟩).turns schedule n ⟨s, []⟩ =
          (.done (.ok page), w) ∧ w.past = ⟨.registry .list, .ok s.members⟩ :: said ∧
        Listed ⟨2, 2⟩ s page inspections said w.store :=
  ⟨rfl, listing_listed _ _ _ _ rfl⟩

end MultiCluster.Service
