import MultiCluster.Proofs.Store.Answers

/-! What no exchange takes away from a store: its members stay, and change in their status alone. -/
namespace MultiCluster

/-- Whether an exchange is a change of the registry that was made. -/
def Exchange.IsWrite : Exchange → Prop
  | ⟨.registry (.create ..), .ok _⟩ => True
  | ⟨.registry (.patch ..), .ok _⟩ => True
  | _ => False

theorem Exchange.IsWrite.cases {e : Exchange} (h : e.IsWrite) :
    (∃ id g m, e = ⟨.registry (.create id g), .ok m⟩) ∨
      ∃ id p, e = ⟨.registry (.patch id p), .ok ()⟩ := by
  unfold Exchange.IsWrite at h
  split at h
  · exact .inl ⟨_, _, _, rfl⟩
  · exact .inr ⟨_, _, rfl⟩
  · exact h.elim

namespace Store

variable {s t u : Store} {e : Exchange}

/-- All members of a store are in the other one, with the same fields but for their status. -/
def Grows (s t : Store) : Prop :=
  ∀ id m, s.get? id = some m → ∃ status, t.get? id = some { m with status }

theorem Grows.refl (s : Store) : s.Grows s := fun _ m h => ⟨m.status, h⟩

theorem Grows.trans (h : s.Grows t) (h' : t.Grows u) : s.Grows u := by
  intro id m hm
  obtain ⟨status, ht⟩ := h id m hm
  obtain ⟨status', hu⟩ := h' id _ ht
  exact ⟨status', hu⟩

theorem grows_patch (s : Store) (i : String) (p : Status.Patch) : s.Grows (s.patch i p) := by
  intro id m hm
  rw [get?_patch, hm, Option.map_some]
  by_cases h : m.id = i
  · exact ⟨p.apply m.status, by rw [← h, patchMember_self]⟩
  · exact ⟨m.status, by rw [patchMember_of_ne p h]⟩

theorem Gains.kept {m n : Member} {id : String} (h : s.Gains m t) (hn : s.get? id = some n) :
    t.get? id = some n := by
  have hid : id ≠ m.id := by
    rintro rfl
    cases h.unused.symm.trans hn
  exact (h.others id hid).trans hn

theorem Gains.grows {m : Member} (h : s.Gains m t) : s.Grows t :=
  fun _ n hn => ⟨n.status, h.kept hn⟩

theorem Answers.grows (h : s.Answers e t) : s.Grows t := by
  obtain ⟨c, r⟩ := e
  cases c with
  | registry c =>
    cases c with
    | list => exact h.list.1 ▸ .refl s
    | get id => exact h.get.1 ▸ .refl s
    | create id g =>
      obtain ⟨now, -, hs, rfl⟩ | ⟨-, rfl⟩ := h.create
      · exact (gains_put hs).grows
      · exact .refl _
    | patch id p =>
      obtain ⟨-, rfl⟩ | ⟨-, rfl⟩ := h.patch
      · exact grows_patch s id p
      · exact .refl _
  | _ => exact h.outside (fun _ => Call.noConfusion) ▸ .refl s

/-- Nothing else changes a store. -/
theorem Answers.eq_of_not_isWrite (h : s.Answers e t) (he : ¬ e.IsWrite) : t = s := by
  obtain ⟨c, r⟩ := e
  cases c with
  | registry c =>
    cases c with
    | list => exact h.list.1
    | get id => exact h.get.1
    | create id g =>
      obtain ⟨now, rfl, -, -⟩ | ⟨-, hs⟩ := h.create
      · exact absurd trivial he
      · exact hs
    | patch id p =>
      obtain ⟨rfl, -⟩ | ⟨-, hs⟩ := h.patch
      · exact absurd trivial he
      · exact hs
  | _ => exact h.outside fun _ => Call.noConfusion

end Store
end MultiCluster
