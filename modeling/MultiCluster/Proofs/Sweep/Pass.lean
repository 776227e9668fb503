import MultiCluster.Proofs.Service.Look

/-! What a pass does, whatever fails and in whatever order the clusters of a batch are served. -/
namespace MultiCluster.Sweep

open Service (Look attempt)

/-- A visit of a member: how far looking at it got, and how storing the totals ends if it comes to
that. -/
structure Visit where
  member : Member
  look : Look
  stored : Except Error Unit

namespace Visit

/-- The totals, if the nodes were listed. -/
def totals? (v : Visit) : Option Totals := v.look.seen?.map (·.2.totals)

/-- All that is said: what looking at the member takes, and one patch of the four totals alone if
they could be had. -/
def exchanges (v : Visit) : List Exchange :=
  v.look.exchanges v.member ++
    match v.totals? with
    | none => []
    | some t => [⟨.registry (.patch v.member.id {
        cpuUsage := some t.cpuUsage
        memoryUsage := some t.memoryUsage
        cpuCapacity := some t.cpuCapacity
        memoryCapacity := some t.memoryCapacity
        health := none }), v.stored⟩]

/-- What comes of it. -/
def outcome (v : Visit) : Outcome :=
  match v.totals?, v.stored with
  | none, _ => .skipped
  | some _, .ok () => .patched
  | some _, .error _ => .failed

/-- The record that is left: a patched one has new totals and is otherwise as before. -/
def left (v : Visit) : Member :=
  match v.totals?, v.stored with
  | some t, .ok () => { v.member with status := {
      cpuCapacity := t.cpuCapacity
      memoryCapacity := t.memoryCapacity
      cpuUsage := t.cpuUsage
      memoryUsage := t.memoryUsage
      health := v.member.status.health } }
  | _, _ => v.member

end Visit

theorem visit_asks (m : Member) : (visit m).Asks (Call.IsAbout m.id) := by
  rw [Service.visit_eq]
  refine (Service.attempt_isAbout m.id).bind fun seen => ?_
  cases seen with
  | none => trivial
  | some seen =>
    refine ⟨rfl, fun r => ?_⟩
    cases r <;> trivial

/-- The job of a visit takes the course of some visit and leaves the record as that visit does. -/
theorem runs_visit {m : Member} {s t : Store} {es : List Exchange} {o : Outcome}
    (h : (visit m).Runs s es o t) (hm : s.get? m.id = some m) :
    ∃ v : Visit, v.member = m ∧ v.exchanges = es ∧ v.outcome = o ∧ t.get? m.id = some v.left := by
  rw [Service.visit_eq] at h
  obtain ⟨fs, gs, seen, u, rfl, ha, hp⟩ := Job.runs_bind_iff.1 h
  obtain ⟨rfl, look, rfl, rfl⟩ := Service.runs_attempt ha hm
  cases hs : look.seen? with
  | none =>
    rw [hs] at hp
    obtain ⟨rfl, rfl, rfl⟩ := Job.runs_done_iff.1 hp
    refine ⟨⟨m, look, .ok ()⟩, rfl, ?_, ?_, ?_⟩
    · simp [Visit.exchanges, Visit.totals?, hs]
    · simp [Visit.outcome, Visit.totals?, hs]
    · simpa [Visit.left, Visit.totals?, hs] using hm
  | some seen =>
    rw [hs] at hp
    obtain ⟨r, v, ds, rfl, answer, hd⟩ := Job.runs_ask_iff.1 hp
    refine ⟨⟨m, look, r⟩, rfl, ?_⟩
    obtain ⟨rfl, rfl⟩ | ⟨⟨e, rfl⟩, rfl⟩ := answer.patch <;>
      obtain ⟨rfl, rfl, rfl⟩ := Job.runs_done_iff.1 hd
    · refine ⟨?_, ?_, ?_⟩
      · simp [Visit.exchanges, Visit.totals?, hs, Totals.patch]
      · simp [Visit.outcome, Visit.totals?, hs]
      · rw [Store.get?_patch, hm, Option.map_some, Store.patchMember_self]
        simp [Visit.left, Visit.totals?, hs, Totals.patch, Status.Patch.apply]
    · refine ⟨?_, ?_, ?_⟩
      · simp [Visit.exchanges, Visit.totals?, hs, Totals.patch]
      · simp [Visit.outcome, Visit.totals?, hs]
      · simpa [Visit.left, Visit.totals?, hs] using hm

/-- No item is lost in batches and none comes twice. -/
theorem flatten_batches {α : Type} (size : Nat) (items : List α) :
    (batches size items).flatten = items := by
  fun_induction batches size items with
  | case1 => rfl
  | case2 x rest ih =>
    rw [List.flatten_cons, ih, List.cons_append, List.take_append_drop]

theorem foldl_add (r : Report) (outcomes : List Outcome) :
    outcomes.foldl Report.add r =
      ⟨r.considered + outcomes.length, r.patched + outcomes.count .patched,
        r.skipped + outcomes.count .skipped, r.failed + outcomes.count .failed⟩ := by
  induction outcomes generalizing r with
  | nil => rfl
  | cons o outcomes ih =>
    rw [List.foldl_cons, ih]
    cases o <;> simp [Report.add] <;> omega

/-- Batch after batch comes to its end, and all visits are made as if each were the only one. -/
theorem visitBatches_turns (limit : Nat) (r : Report) (ms : List (List Member))
    (hid : (ms.flatten.map (·.id)).Nodup) (schedule : Nat → Turn) (w : Surroundings) :
    ∃ n v said solos, (visitBatches limit r ms).settle.turns schedule n w =
        (.done (.ok ((solos.map (·.value)).foldl Report.add r)), v) ∧
      v.past = w.past ++ said ∧
      Apart (ms.flatten.map fun m => (m.id, visit m)) w.store said solos v.store := by
  induction ms generalizing r schedule w with
  | nil =>
    refine ⟨0, w, [], [], rfl, by simp, ?_⟩
    exact ⟨.nil, .nil, fun _ _ => rfl, rfl⟩
  | cons batch ms ih =>
    rw [List.flatten_cons, List.map_append] at hid
    obtain ⟨n, said, solos, u, hn, hp, ha⟩ := Flow.pool_apart (Nat.le_max_right limit 1) .anyOrder
      (List.nodup_append.1 hid).1 visit_asks
      (fun os => visitBatches limit (os.foldl Report.add r) ms) schedule w
    obtain ⟨k, v, more, others, hk, hq, hb⟩ := ih ((solos.map (·.value)).foldl Report.add r)
      (List.nodup_append.1 hid).2.1 (fun i => schedule (i + n)) u
    refine ⟨n + k, v, said ++ more, solos ++ others, ?_, ?_, ?_⟩
    · rw [visitBatches, Flow.turns_add, hn, hk, List.map_append, List.foldl_append]
    · rw [hq, hp, List.append_assoc]
    · rw [List.flatten_cons, List.map_append]
      refine ha.append (by simpa [Function.comp_def] using hid) (fun task ht => ?_) hb
      obtain ⟨m, -, rfl⟩ := List.mem_map.1 ht
      exact visit_asks m

/-- What a pass over a store comes to: the report, the visits that were made in the order of the
members, what was said behind the list of members, and the store that is left. -/
structure Plan.Passed (p : Plan) (s : Store) (r : Report) (visits : List Visit)
    (said : List Exchange) (s' : Store) : Prop where
  /-- Every member in scope is visited once, and no other. -/
  scope : visits.map (·.member) = match p.scope with
    | .all => s.members
    | .firstPage => s.members.take (max p.pageSize 1)
  /-- Nothing is said but what the visits say, in some order. -/
  said : said.Perm (visits.flatMap (·.exchanges))
  /-- The visits are counted by what came of them. -/
  report : r = ⟨visits.length, visits.countP (·.outcome = .patched),
    visits.countP (·.outcome = .skipped), visits.countP (·.outcome = .failed)⟩
  considered : r.considered = r.patched + r.skipped + r.failed
  /-- Each visited member is left as its visit leaves it. -/
  left : ∀ v ∈ visits, s'.get? v.member.id = some v.left
  /-- All others are left alone. -/
  others : ∀ id, id ∉ visits.map (·.member.id) → s'.get? id = s.get? id
  ids : s'.ids = s.ids

theorem covered_eq (p : Plan) (ms : List Member) : p.covered ms = match p.scope with
    | .all => ms
    | .firstPage => ms.take (max p.pageSize 1) := by
  obtain ⟨scope, size, limit⟩ := p
  cases scope with
  | all => rfl
  | firstPage => simp [Plan.covered, PageRequest.slice, PageRequest.bounds, List.take_eq_take_iff]

theorem covered_sublist (p : Plan) (ms : List Member) : (p.covered ms).Sublist ms := by
  rw [covered_eq]
  cases p.scope with
  | all => exact .refl _
  | firstPage => exact List.take_sublist _ _

private theorem considered_eq (visits : List Visit) :
    visits.length = visits.countP (·.outcome = .patched) + visits.countP (·.outcome = .skipped) +
      visits.countP (·.outcome = .failed) := by
  induction visits with
  | nil => rfl
  | cons v visits ih =>
    cases h : v.outcome <;> simp [h] <;> omega

/-- A pass whose list of members is answered comes to its end under any schedule, whatever else
fails and however answers are ordered. -/
theorem pass_passed (p : Plan) (s : Store) (schedule : Nat → Turn)
    (h : (schedule 0).fault = none) :
    ∃ n r visits said w, (pass p).turns schedule n ⟨s, []⟩ = (.done (.ok r), w) ∧
      w.past = ⟨.registry .list, .ok s.members⟩ :: said ∧ p.Passed s r visits said w.store := by
  have hid : (((batches (max p.pageSize 1) (p.covered s.members)).flatten).map (·.id)).Nodup := by
    rw [flatten_batches]
    exact s.nodup_ids.sublist ((covered_sublist p s.members).map _)
  obtain ⟨n, w, said, solos, hn, hp, ha⟩ := visitBatches_turns p.limit .empty _ hid
    (fun k => schedule (k + 1)) ⟨s, [⟨.registry .list, .ok s.members⟩]⟩
  rw [flatten_batches] at ha
  obtain ⟨visits, hm, hv, hs, hl, ho⟩ := ha.described runs_visit
    (covered_sublist p s.members).subset
  have hr : (solos.map (·.value)).foldl Report.add .empty =
      ⟨visits.length, visits.countP (·.outcome = .patched), visits.countP (·.outcome = .skipped),
        visits.countP (·.outcome = .failed)⟩ := by
    rw [← hv, foldl_add]
    simp [Report.empty, List.count, List.countP_map, Function.comp_def, beq_eq_decide]
  refine ⟨n + 1, _, visits, said, w, ?_, hp, {
    scope := hm.trans (covered_eq p s.members)
    said := hs
    report := rfl
    considered := considered_eq visits
    left := hl
    others := ho
    ids := ha.ids }⟩
  rw [← hr, ← hn, Flow.turns_succ, pass, Flow.turn_ask, Turn.serve_list h]
  rfl

/-- Two of three members are visited side by side, and storing the totals of one of them fails. -/
theorem pass_passed_of_three :
    let s := Store.ofList (["lab", "core", "edge"].map fun id => .new id ⟨"config", id, ""⟩ none)
    let schedule : Nat → Turn := fun k =>
      { Turn.plain with pick := k, fault := if k = 7 then some (.internal "down") else none }
    (schedule 0).fault = none ∧
      ∃ n r visits said w, (pass ⟨.firstPage, 2, 4⟩).turns schedule n ⟨s, []⟩ =
          (.done (.ok r), w) ∧ w.past = ⟨.registry .list, .ok s.members⟩ :: said ∧
        Plan.Passed ⟨.firstPage, 2, 4⟩ s r visits said w.store :=
  ⟨rfl, pass_passed _ _ _ rfl⟩

end MultiCluster.Sweep
