import Mathlib.Data.List.Induction
import Mathlib.Data.List.Sort
import MultiCluster.Proofs.Json.Record

/-! Objects that are read as dictionaries: each key once, in ascending order, with the value that
was given for it last. -/
namespace MultiCluster.Json.Decode

variable {α : Type}

private theorem mem_putEntry {key : String} {value : α} {entry : String × α}
    {entries : List (String × α)} (h : entry ∈ putEntry key value entries) :
    entry.1 = key ∨ entry ∈ entries := by
  induction entries with
  | nil =>
    obtain rfl := List.mem_singleton.1 h
    exact .inl rfl
  | cons first entries ih =>
    unfold putEntry at h
    split at h
    · rcases List.mem_cons.1 h with rfl | h
      · exact .inl rfl
      · exact .inr h
    · split at h <;> rcases List.mem_cons.1 h with rfl | h
      · exact .inl rfl
      · exact .inr (List.mem_cons_of_mem _ h)
      · exact .inr List.mem_cons_self
      · exact (ih h).imp_right (List.mem_cons_of_mem _)

private theorem pairwise_putEntry (key : String) (value : α) {entries : List (String × α)}
    (h : entries.Pairwise (·.1 < ·.1)) : (putEntry key value entries).Pairwise (·.1 < ·.1) := by
  induction entries with
  | nil => exact List.pairwise_singleton _ _
  | cons first entries ih =>
    have hc := List.pairwise_cons.1 h
    unfold putEntry
    split
    · next lt =>
      refine List.pairwise_cons.2 ⟨fun entry he => ?_, h⟩
      rcases List.mem_cons.1 he with rfl | he
      · exact lt
      · exact String.lt_trans lt (hc.1 entry he)
    · split
      · next eq => exact List.pairwise_cons.2 ⟨fun entry he => eq ▸ hc.1 entry he, hc.2⟩
      · next notLt ne =>
        refine List.pairwise_cons.2 ⟨fun entry he => ?_, ih hc.2⟩
        rcases mem_putEntry he with rfl | he
        · exact Decidable.byContradiction fun notGt =>
            ne (String.le_antisymm (String.not_lt.1 notGt) (String.not_lt.1 notLt))
        · exact hc.1 entry he

private theorem lookup_cons_eq (key other : String) (value : α) (entries : List (String × α)) :
    ((key, value) :: entries).lookup other =
      if key = other then some value else entries.lookup other := by
  rw [List.lookup_cons]
  by_cases h : key = other
  · simp [h]
  · simp [h, beq_false_of_ne (Ne.symm h)]

private theorem lookup_putEntry (key other : String) (value : α) (entries : List (String × α)) :
    (putEntry key value entries).lookup other =
      if key = other then some value else entries.lookup other := by
  induction entries with
  | nil => rw [putEntry, lookup_cons_eq]
  | cons first entries ih =>
    obtain ⟨k, v⟩ := first
    unfold putEntry
    split
    · rw [lookup_cons_eq]
    · split
      · next eq =>
        subst eq
        rw [lookup_cons_eq, lookup_cons_eq]
        split <;> rfl
      · next ne =>
        rw [lookup_cons_eq, lookup_cons_eq, ih]
        split
        · next eq => rw [if_neg (eq ▸ ne)]
        · rfl

private theorem lookup_eq_some_iff_mem {entries : List (String × α)}
    (h : entries.Pairwise (·.1 < ·.1)) {key : String} {value : α} :
    entries.lookup key = some value ↔ (key, value) ∈ entries := by
  constructor
  · intro hl
    obtain ⟨front, back, rfl, -⟩ := List.lookup_eq_some_iff.1 hl
    simp
  · intro hm
    obtain ⟨front, back, rfl⟩ := List.append_of_mem hm
    refine List.lookup_eq_some_iff.2 ⟨front, back, rfl, fun entry he => ?_⟩
    have hlt := (List.pairwise_append.1 h).2.2 entry he _ List.mem_cons_self
    have hne : key ≠ entry.1 := by
      rintro rfl
      exact String.lt_irrefl _ hlt
    simpa using hne

/-- Entries in ascending order are known by what is found under each key. -/
private theorem eq_of_lookup_eq {entries others : List (String × α)}
    (h : entries.Pairwise (·.1 < ·.1)) (ho : others.Pairwise (·.1 < ·.1))
    (hl : ∀ key a, entries.lookup key = some a ↔ others.lookup key = some a) :
    entries = others := by
  have : Std.Irrefl fun a b : String × α => a.1 < b.1 := ⟨fun a => String.lt_irrefl a.1⟩
  have : Std.Antisymm fun a b : String × α => a.1 < b.1 :=
    ⟨fun a b hab hba => absurd hba (String.lt_asymm hab)⟩
  refine h.eq_of_mem_iff ho fun ⟨key, a⟩ => ?_
  rw [← lookup_eq_some_iff_mem h, ← lookup_eq_some_iff_mem ho]
  exact hl key a

/-- What an object is read as, key by key. -/
def IsDictionary (IsRead : Json → α → Prop) (j : Json) (entries : List (String × α)) : Prop :=
  ∃ members, j = .obj members ∧ (∀ m ∈ members, ∃ a, IsRead m.2 a) ∧
    entries.Pairwise (·.1 < ·.1) ∧
    ∀ key a, entries.lookup key = some a ↔ ∃ value,
      (given key members).getLast? = some value ∧ IsRead value a

section

variable {item : Decoder α} {IsRead : Json → α → Prop} (h : ∀ j a, item j = .ok a ↔ IsRead j a)
include h

private theorem isDictionary_of_eq_ok {members : List (String × Json)}
    {entries : List (String × α)} (he : dictionary item (.obj members) = .ok entries) :
    IsDictionary IsRead (.obj members) entries := by
  refine ⟨members, rfl, ?_⟩
  rw [dictionary] at he
  induction members using List.reverseRecOn generalizing entries with
  | nil =>
    cases he
    refine ⟨by simp, .nil, fun key a => ?_⟩
    simp [given]
  | append_singleton members m ih =>
    rw [List.foldlM_append] at he
    obtain ⟨before, hb, he⟩ := bind_eq_ok_iff.1 he
    obtain ⟨hr, hs, hl⟩ := ih hb
    obtain ⟨k, j⟩ := m
    cases hj : item j with
    | error fault => simp [hj, Except.map, bind, Except.bind] at he
    | ok value =>
      simp only [List.foldlM_cons, List.foldlM_nil, hj, Except.map, bind, Except.bind, pure,
        Except.pure, Except.ok.injEq] at he
      subst he
      have hv := (h j value).1 hj
      refine ⟨?_, pairwise_putEntry k value hs, fun key a => ?_⟩
      · intro m hm
        rcases List.mem_append.1 hm with hm | hm
        · exact hr m hm
        · rw [List.mem_singleton.1 hm]
          exact ⟨value, hv⟩
      · rw [lookup_putEntry, given_append, given_cons]
        by_cases hk : k = key
        · have hu (a : α) : IsRead j a ↔ value = a := by
            rw [← h, hj, Except.ok.injEq]
          simp [hk, given, hu]
        · simpa [hk, given] using hl key a

/-- A dictionary is read from an object each of whose members is read. -/
theorem dictionary_eq_ok_iff (j : Json) (entries : List (String × α)) :
    dictionary item j = .ok entries ↔ IsDictionary IsRead j entries := by
  constructor
  · intro he
    cases j with
    | obj members => exact isDictionary_of_eq_ok h he
    | _ => cases he
  · rintro ⟨members, rfl, hr, hs, hl⟩
    have reads (members : List (String × Json)) (hr : ∀ m ∈ members, ∃ a, IsRead m.2 a)
        (before : List (String × α)) : ∃ after, members.foldlM
          (fun sorted m => (item m.2).map (putEntry m.1 · sorted)) before = .ok after := by
      induction members generalizing before with
      | nil => exact ⟨before, rfl⟩
      | cons m members ih =>
        obtain ⟨a, ha⟩ := hr m List.mem_cons_self
        obtain ⟨after, hf⟩ := ih (fun m hm => hr m (List.mem_cons_of_mem _ hm))
          (putEntry m.1 a before)
        refine ⟨after, ?_⟩
        rw [List.foldlM_cons, (h _ _).2 ha]
        exact hf
    obtain ⟨others, ho⟩ := reads members hr []
    obtain ⟨members', heq, -, hs', hl'⟩ := isDictionary_of_eq_ok h ho
    obtain rfl := Json.obj.inj heq
    rw [dictionary, ho, eq_of_lookup_eq hs' hs fun key a => (hl' key a).trans (hl key a).symm]

end

end MultiCluster.Json.Decode
