import MultiCluster.Registry

/-! A registry that keeps its members itself. -/
namespace MultiCluster

/-- Members in strictly ascending order of their ids, so that each id occurs once. -/
structure Store where
  members : List Member
  ascending : members.Pairwise (·.id < ·.id)

namespace Store

def empty : Store := ⟨[], .nil⟩

/-- Puts a member into an ascending list, in place of one with the same id. -/
def putMember (m : Member) : List Member → List Member
  | [] => [m]
  | n :: rest =>
    if m.id < n.id then m :: n :: rest
    else if m.id = n.id then m :: rest
    else n :: putMember m rest

/-- Who is in the list after a member has been put into it. -/
theorem mem_putMember {m x : Member} {ms : List Member} (h : x ∈ putMember m ms) :
    x = m ∨ x ∈ ms := by
  induction ms with
  | nil => simpa [putMember] using h
  | cons n rest ih =>
    unfold putMember at h
    split at h
    · simpa using h
    · split at h <;> simp only [List.mem_cons] at h ⊢
      · rcases h with h | h <;> simp [h]
      · rcases h with h | h
        · simp [h]
        · rcases ih h with h | h <;> simp [h]

/-- Putting a member keeps the list ascending. -/
theorem pairwise_putMember (m : Member) {ms : List Member} (h : ms.Pairwise (·.id < ·.id)) :
    (putMember m ms).Pairwise (·.id < ·.id) := by
  induction ms with
  | nil => simp [putMember]
  | cons n rest ih =>
    rw [List.pairwise_cons] at h
    unfold putMember
    split
    · next lt =>
      refine List.pairwise_cons.2 ⟨fun x hx => ?_, List.pairwise_cons.2 h⟩
      rcases List.mem_cons.1 hx with rfl | hx
      · exact lt
      · exact String.lt_trans lt (h.1 x hx)
    · split
      · next eq => exact List.pairwise_cons.2 ⟨fun x hx => eq ▸ h.1 x hx, h.2⟩
      · next notLt ne =>
        refine List.pairwise_cons.2 ⟨fun x hx => ?_, ih h.2⟩
        rcases mem_putMember hx with rfl | hx
        · exact Decidable.byContradiction fun notGt =>
            ne (String.le_antisymm (String.not_lt.1 notGt) (String.not_lt.1 notLt))
        · exact h.1 x hx

/-- The store with a member, in place of one with the same id. -/
def put (s : Store) (m : Member) : Store :=
  ⟨putMember m s.members, pairwise_putMember m s.ascending⟩

/-- The store of some members; of those with one id the last stays. -/
def ofList (ms : List Member) : Store := ms.foldl put empty

def get? (s : Store) (id : String) : Option Member := s.members.find? (·.id == id)

/-- Changes the status of the member under an id. -/
def patchMember (id : String) (p : Status.Patch) (m : Member) : Member :=
  if m.id = id then { m with status := p.apply m.status } else m

/-- A change of status keeps the id. -/
@[simp] theorem id_patchMember (id : String) (p : Status.Patch) (m : Member) :
    (patchMember id p m).id = m.id := by
  unfold patchMember; split <;> rfl

/-- The store in which the status of the member under an id is changed. -/
def patch (s : Store) (id : String) (p : Status.Patch) : Store where
  members := s.members.map (patchMember id p)
  ascending := List.pairwise_map.2 (by simpa using s.ascending)

/-- Answers a call; `now` is the time at which clusters are registered. -/
def serve (now : String) : (c : Registry.Call) → StateM Store c.Reply
  | .list => fun s => (.ok s.members, s)
  | .get id => fun s =>
    match s.get? id with
    | some m => (.ok m, s)
    | none => (.error (.clusterNotFound id), s)
  | .create id r => fun s =>
    match s.get? id with
    | some _ => (.error (Registry.conflict id), s)
    | none =>
      let m := Member.new id r (some now)
      (.ok m, s.put m)
  | .patch id p => fun s =>
    match s.get? id with
    | some _ => (.ok (), s.patch id p)
    | none => (.error (.clusterNotFound id), s)

end Store
end MultiCluster
