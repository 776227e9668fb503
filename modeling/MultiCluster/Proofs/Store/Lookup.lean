import MultiCluster.Store
import Mathlib.Data.List.Nodup

/-! What a store holds under its ids, and what is left of it after a change. -/
namespace MultiCluster.Store

/-- The ids in use, in ascending order. -/
def ids (s : Store) : List String := s.members.map (·.id)

theorem nodup_ids (s : Store) : s.ids.Nodup :=
  (List.pairwise_map.2 s.ascending).imp fun h => fun e => String.lt_irrefl _ (e ▸ h)

/-- A store holds at most one member under an id. -/
theorem get?_eq_some_iff {s : Store} {id : String} {m : Member} :
    s.get? id = some m ↔ m ∈ s.members ∧ m.id = id := by
  constructor
  · intro h
    exact ⟨List.mem_of_find?_eq_some h, by simpa using List.find?_some h⟩
  · rintro ⟨hm, rfl⟩
    cases h : s.get? m.id with
    | none => simpa using List.find?_eq_none.1 h m hm
    | some n =>
      have hn : n ∈ s.members := List.mem_of_find?_eq_some h
      have he : n.id = m.id := by simpa using List.find?_some h
      rw [List.inj_on_of_nodup_map s.nodup_ids hn hm he]

theorem get?_of_mem {s : Store} {m : Member} (h : m ∈ s.members) : s.get? m.id = some m :=
  get?_eq_some_iff.2 ⟨h, rfl⟩

theorem get?_eq_none_iff {s : Store} {id : String} : s.get? id = none ↔ id ∉ s.ids := by
  simp [get?, ids]

theorem ids_patch (s : Store) (id : String) (p : Status.Patch) : (s.patch id p).ids = s.ids := by
  simp [ids, patch, Function.comp_def]

/-- A change of status under one id is seen under that id alone. -/
theorem get?_patch (s : Store) (id j : String) (p : Status.Patch) :
    (s.patch id p).get? j = (s.get? j).map (patchMember id p) := by
  simp only [get?, patch, List.find?_map, Function.comp_def, id_patchMember]

theorem patchMember_self (m : Member) (p : Status.Patch) :
    patchMember m.id p m = { m with status := p.apply m.status } := if_pos rfl

theorem patchMember_of_ne {id : String} {m : Member} (p : Status.Patch) (h : m.id ≠ id) :
    patchMember id p m = m := if_neg h

theorem get?_patch_of_ne (s : Store) {id j : String} (p : Status.Patch) (h : j ≠ id) :
    (s.patch id p).get? j = s.get? j := by
  rw [get?_patch]
  cases hm : s.get? j with
  | none => rfl
  | some m => rw [Option.map_some, patchMember_of_ne p ((get?_eq_some_iff.1 hm).2.trans_ne h)]

private theorem find?_putMember (m : Member) (ms : List Member) (id : String) :
    (putMember m ms).find? (·.id == id) =
      if m.id = id then some m else ms.find? (·.id == id) := by
  induction ms with
  | nil => by_cases h : m.id = id <;> simp [putMember, h]
  | cons n rest ih =>
    unfold putMember
    split
    · by_cases h : m.id = id <;> simp [h]
    · split
      · next he => by_cases h : m.id = id <;> simp [h, ← he]
      · next hne =>
        rw [List.find?_cons, List.find?_cons, ih]
        by_cases h : m.id = id
        · have hn : (n.id == id) = false := by simpa [← h] using Ne.symm hne
          simp [h, hn]
        · simp [h]

/-- A member that is put in is found under its id, all others as before. -/
theorem get?_put (s : Store) (m : Member) (id : String) :
    (s.put m).get? id = if m.id = id then some m else s.get? id :=
  find?_putMember m s.members id

/-- A store with one more member, under an id that was not in use, and no other change. -/
structure Gains (s : Store) (m : Member) (t : Store) : Prop where
  unused : s.get? m.id = none
  held : t.get? m.id = some m
  others : ∀ id, id ≠ m.id → t.get? id = s.get? id

theorem gains_put {s : Store} {m : Member} (h : s.get? m.id = none) : s.Gains m (s.put m) where
  unused := h
  held := by rw [get?_put, if_pos rfl]
  others id hid := by rw [get?_put, if_neg hid.symm]

/-- A store with one record in place of another one under its id, and no other change. -/
structure Alters (s : Store) (m n : Member) (t : Store) : Prop where
  held : s.get? m.id = some m
  altered : t.get? m.id = some n
  others : ∀ id, id ≠ m.id → t.get? id = s.get? id

theorem alters_patch {s : Store} {m : Member} (h : s.get? m.id = some m) (p : Status.Patch) :
    s.Alters m { m with status := p.apply m.status } (s.patch m.id p) where
  held := h
  altered := by rw [get?_patch, h, Option.map_some, patchMember_self]
  others _ hid := get?_patch_of_ne s p hid

end MultiCluster.Store
