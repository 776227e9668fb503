import MultiCluster.Proofs.Store.Lookup
import MultiCluster.Proofs.Surroundings

/-! What a store makes of one exchange, and how far an exchange about one cluster reaches: it reads
and changes nothing but the record of that cluster. -/
namespace MultiCluster

/-- Whether a question is about the record under an id, or about no record at all. -/
def Call.IsAbout (id : String) : Call → Prop
  | .registry (.get i) => i = id
  | .registry (.patch i _) => i = id
  | .registry _ => False
  | _ => True

namespace Store

variable {s s' t : Store} {id : String} {e : Exchange}

/-- Some move of the surroundings leads from one store to the other with this exchange. -/
def Answers (s : Store) (e : Exchange) (s' : Store) : Prop :=
  ∃ t : Turn, t.answer e.call s = (e.reply, s')

private theorem outside_or_registry (c : Call) :
    (∃ r, c = .registry r) ∨ ∀ t : Turn, ∀ s, t.answer c s = (t.outside c, s) := by
  cases c with
  | registry r => exact .inl ⟨r, rfl⟩
  | _ => exact .inr fun _ _ => rfl

private theorem answer_registry (t : Turn) (c : Registry.Call) (s : Store) :
    (∃ e, t.answer (.registry c) s = (c.fail e, s)) ∨
      t.answer (.registry c) s = Store.serve t.now c s := by
  cases h : t.fault with
  | some e => exact .inl ⟨e, by simp only [Turn.answer, h]; rfl⟩
  | none => exact .inr (by simp only [Turn.answer, h])

theorem Answers.list {r : Except Error (List Member)} (h : s.Answers ⟨.registry .list, r⟩ s') :
    s' = s ∧ (r = .ok s.members ∨ ∃ f, r = .error f) := by
  obtain ⟨t, h⟩ := h
  obtain ⟨f, ha⟩ | ha := answer_registry t .list s
  · obtain ⟨rfl, rfl⟩ := Prod.mk.inj (ha.symm.trans h)
    exact ⟨rfl, .inr ⟨f, rfl⟩⟩
  · obtain ⟨rfl, rfl⟩ := Prod.mk.inj (ha.symm.trans h)
    exact ⟨rfl, .inl rfl⟩

/-- A record is given as it is, or not at all. -/
theorem Answers.get {r : Except Error Member} (h : s.Answers ⟨.registry (.get id), r⟩ s') :
    s' = s ∧ ((∃ m, s.get? id = some m ∧ r = .ok m) ∨ ∃ f, r = .error f) := by
  obtain ⟨t, h⟩ := h
  obtain ⟨f, ha⟩ | ha := answer_registry t (.get id) s
  · obtain ⟨rfl, rfl⟩ := Prod.mk.inj (ha.symm.trans h)
    exact ⟨rfl, .inr ⟨f, rfl⟩⟩
  · cases hm : s.get? id <;> simp only [serve, hm] at ha <;>
      obtain ⟨rfl, rfl⟩ := Prod.mk.inj (ha.symm.trans h)
    · exact ⟨rfl, .inr ⟨_, rfl⟩⟩
    · exact ⟨rfl, .inl ⟨_, rfl, rfl⟩⟩

/-- A change is made just when the answer says so. -/
theorem Answers.patch {p : Status.Patch} {r : Except Error Unit}
    (h : s.Answers ⟨.registry (.patch id p), r⟩ s') :
    r = .ok () ∧ s' = s.patch id p ∨ (∃ f, r = .error f) ∧ s' = s := by
  obtain ⟨t, h⟩ := h
  obtain ⟨f, ha⟩ | ha := answer_registry t (.patch id p) s
  · obtain ⟨rfl, rfl⟩ := Prod.mk.inj (ha.symm.trans h)
    exact .inr ⟨⟨f, rfl⟩, rfl⟩
  · cases hm : s.get? id with
    | none =>
      simp only [serve, hm] at ha
      obtain ⟨rfl, rfl⟩ := Prod.mk.inj (ha.symm.trans h)
      exact .inr ⟨⟨_, rfl⟩, rfl⟩
    | some m =>
      simp only [serve, hm] at ha
      obtain ⟨rfl, rfl⟩ := Prod.mk.inj (ha.symm.trans h)
      exact .inl ⟨rfl, rfl⟩

/-- A change that is made is made to the record under the id. -/
theorem Answers.patched {p : Status.Patch} (h : s.Answers ⟨.registry (.patch id p), .ok ()⟩ s') :
    ∃ m, m.id = id ∧ s.Alters m { m with status := p.apply m.status } s' := by
  obtain ⟨-, hs⟩ | ⟨⟨f, hf⟩, -⟩ := h.patch
  · obtain ⟨t, h⟩ := h
    obtain ⟨f, ha⟩ | ha := answer_registry t (.patch id p) s
    · cases (Prod.mk.inj (ha.symm.trans h)).1
    · cases hm : s.get? id with
      | none =>
        simp only [serve, hm] at ha
        cases (Prod.mk.inj (ha.symm.trans h)).1
      | some m =>
        obtain rfl := (get?_eq_some_iff.1 hm).2
        exact ⟨m, rfl, hs ▸ alters_patch hm p⟩
  · cases hf

/-- A record is added just when the answer says so, under an id that was not in use, with the time
of the move. -/
theorem created_of_answer {t : Turn} {g : Registration} {r : Except Error Member}
    (h : t.answer (.registry (.create id g)) s = (r, s')) :
    (r = .ok (.new id g (some t.now)) ∧ s.get? id = none ∧
      s' = s.put (.new id g (some t.now))) ∨ (∃ f, r = .error f) ∧ s' = s := by
  obtain ⟨f, ha⟩ | ha := answer_registry t (.create id g) s
  · obtain ⟨rfl, rfl⟩ := Prod.mk.inj (ha.symm.trans h)
    exact .inr ⟨⟨f, rfl⟩, rfl⟩
  · cases hm : s.get? id with
    | none =>
      simp only [serve, hm] at ha
      obtain ⟨rfl, rfl⟩ := Prod.mk.inj (ha.symm.trans h)
      exact .inl ⟨rfl, rfl, rfl⟩
    | some m =>
      simp only [serve, hm] at ha
      obtain ⟨rfl, rfl⟩ := Prod.mk.inj (ha.symm.trans h)
      exact .inr ⟨⟨_, rfl⟩, rfl⟩

theorem Answers.create {g : Registration} {r : Except Error Member}
    (h : s.Answers ⟨.registry (.create id g), r⟩ s') :
    (∃ now, r = .ok (.new id g (some now)) ∧ s.get? id = none ∧
      s' = s.put (.new id g (some now))) ∨ (∃ f, r = .error f) ∧ s' = s := by
  obtain ⟨t, h⟩ := h
  obtain created | failed := created_of_answer h
  · exact .inl ⟨t.now, created⟩
  · exact .inr failed

theorem Answers.outside (h : s.Answers e s') (he : ∀ c, e.call ≠ .registry c) : s' = s := by
  obtain ⟨t, h⟩ := h
  obtain ⟨c, hc⟩ | hc := outside_or_registry e.call
  · exact absurd hc (he c)
  · exact (Prod.mk.inj ((hc t s).symm.trans h)).2.symm

/-- An exchange about one cluster leaves the records of all others alone. -/
theorem Answers.frame {j : String} (h : s.Answers e s') (he : e.call.IsAbout id) (hj : j ≠ id) :
    s'.get? j = s.get? j := by
  obtain ⟨c, r⟩ := e
  cases c with
  | registry c =>
    cases c with
    | get i => rw [h.get.1]
    | patch i p =>
      obtain rfl : i = id := he
      obtain ⟨-, rfl⟩ | ⟨-, rfl⟩ := h.patch
      · exact get?_patch_of_ne s p hj
      · rfl
    | list => exact he.elim
    | create => exact he.elim
  | _ => rw [h.outside fun _ => Call.noConfusion]

theorem Answers.ids (h : s.Answers e s') (he : e.call.IsAbout id) : s'.ids = s.ids := by
  obtain ⟨c, r⟩ := e
  cases c with
  | registry c =>
    cases c with
    | get i => rw [h.get.1]
    | patch i p =>
      obtain ⟨-, rfl⟩ | ⟨-, rfl⟩ := h.patch
      · exact ids_patch s i p
      · rfl
    | list => exact he.elim
    | create => exact he.elim
  | _ => rw [h.outside fun _ => Call.noConfusion]

private theorem answer_congr (v : Turn) {c : Call} (hc : c.IsAbout id)
    (ht : t.get? id = s.get? id) :
    (v.answer c t).1 = (v.answer c s).1 ∧ (v.answer c t).2.get? id = (v.answer c s).2.get? id := by
  cases c with
  | registry c =>
    obtain ⟨e, hf⟩ | hf := v.fault.eq_none_or_eq_some.symm
    · simp only [Turn.answer, hf]
      exact ⟨rfl, ht⟩
    · cases c with
      | get i =>
        obtain rfl : i = id := hc
        cases hm : s.get? i <;> simp [Turn.answer, hf, serve, ht, hm]
      | patch i p =>
        obtain rfl : i = id := hc
        cases hm : s.get? i <;> simp [Turn.answer, hf, serve, ht, hm, get?_patch]
      | list => exact hc.elim
      | create => exact hc.elim
  | _ => exact ⟨rfl, ht⟩

/-- An exchange about one cluster can be had with any store that holds the same record of it, to
the same effect on that record. -/
theorem Answers.congr (h : s.Answers e s') (he : e.call.IsAbout id) (ht : t.get? id = s.get? id) :
    ∃ t', t.Answers e t' ∧ t'.get? id = s'.get? id := by
  obtain ⟨v, h⟩ := h
  obtain ⟨hr, hs⟩ := answer_congr v he ht
  rw [h] at hr hs
  exact ⟨(v.answer e.call t).2, ⟨v, Prod.ext hr rfl⟩, hs⟩

end Store
end MultiCluster
