import MultiCluster.Text.Split

/-! The parts of a text between separators. -/
namespace MultiCluster.Text

theorem splitAll_eq_splitOn (separator : Char) (cs : List Char) :
    splitAll separator cs = cs.splitOn separator := by
  induction cs with
  | nil => simp [splitAll]
  | cons c cs ih =>
    rw [splitAll, ih, List.splitOn_cons_eq_if_modifyHead]
    by_cases h : c = separator
    · simp [h]
    · cases hs : cs.splitOn separator with
      | nil => exact absurd hs (List.splitOn_ne_nil _ _)
      | cons part parts => simp [h]

/-- No part has the separator, and every character of a part is one of the whole. -/
theorem mem_of_mem_splitAll {separator c : Char} {cs part : List Char}
    (hp : part ∈ splitAll separator cs) (hc : c ∈ part) : c ∈ cs ∧ c ≠ separator := by
  induction cs generalizing part with
  | nil =>
    rw [splitAll, List.mem_singleton] at hp
    simp [hp] at hc
  | cons d cs ih =>
    rw [splitAll] at hp
    split at hp
    · rcases List.mem_cons.1 hp with rfl | hp
      · cases hc
      · exact (ih hp hc).imp_left (List.mem_cons_of_mem d)
    · split at hp
      · next part' parts hs =>
        rw [hs] at ih
        rcases List.mem_cons.1 hp with rfl | hp
        · rcases List.mem_cons.1 hc with rfl | hc
          · exact ⟨List.mem_cons_self, ‹_›⟩
          · exact (ih List.mem_cons_self hc).imp_left (List.mem_cons_of_mem d)
        · exact (ih (List.mem_cons_of_mem _ hp) hc).imp_left (List.mem_cons_of_mem d)
      · next hs => exact absurd hs (splitAll_ne_nil _ _)

/-- Every character of a text but the separator is in one of the parts. -/
theorem exists_mem_splitAll {separator c : Char} {cs : List Char} (hc : c ∈ cs)
    (hs : c ≠ separator) : ∃ part ∈ splitAll separator cs, c ∈ part := by
  induction cs with
  | nil => cases hc
  | cons d cs ih =>
    rw [splitAll]
    split
    · next hd =>
      obtain ⟨part, hp, hm⟩ := ih ((List.mem_cons.1 hc).resolve_left fun h => hs (h.trans hd))
      exact ⟨part, List.mem_cons_of_mem _ hp, hm⟩
    · split
      · next first rest he =>
        rw [he] at ih
        obtain rfl | hc := List.mem_cons.1 hc
        · exact ⟨_, List.mem_cons_self, List.mem_cons_self⟩
        · obtain ⟨part, hp, hm⟩ := ih hc
          obtain rfl | hp := List.mem_cons.1 hp
          · exact ⟨_, List.mem_cons_self, List.mem_cons_of_mem d hm⟩
          · exact ⟨part, List.mem_cons_of_mem _ hp, hm⟩
      · next he => exact absurd he (splitAll_ne_nil _ _)

theorem splitAll_append (separator : Char) (xs ys : List Char) :
    splitAll separator (xs ++ separator :: ys) =
      splitAll separator xs ++ splitAll separator ys := by
  induction xs with
  | nil => simp [splitAll]
  | cons x xs ih =>
    rw [List.cons_append, splitAll, splitAll, ih]
    split
    · rfl
    · cases hs : splitAll separator xs with
      | nil => exact absurd hs (splitAll_ne_nil separator xs)
      | cons part parts => rfl

/-- What has no separator goes on with the last part. -/
theorem exists_splitAll_append {separator : Char} (xs : List Char) {ys : List Char}
    (h : separator ∉ ys) : ∃ front last, splitAll separator xs = front ++ [last] ∧
      splitAll separator (xs ++ ys) = front ++ [last ++ ys] := by
  induction xs with
  | nil =>
    refine ⟨[], [], rfl, ?_⟩
    rw [splitAll_eq_splitOn, List.nil_append, List.splitOn_eq_singleton h]
    rfl
  | cons x xs ih =>
    obtain ⟨front, last, hs, ha⟩ := ih
    rw [List.cons_append, splitAll, splitAll, hs, ha]
    split
    · exact ⟨[] :: front, last, rfl, rfl⟩
    · cases front with
      | nil => exact ⟨[], x :: last, rfl, rfl⟩
      | cons part front => exact ⟨(x :: part) :: front, last, rfl, rfl⟩

/-- What passes a test ends where the first item fails it. -/
theorem takeWhile_dropWhile_append {α : Type} {test : α → Bool} {xs ys : List α}
    (hx : ∀ x ∈ xs, test x = true) (hy : ∀ y ∈ ys.head?, test y = false) :
    (xs ++ ys).takeWhile test = xs ∧ (xs ++ ys).dropWhile test = ys := by
  rw [List.takeWhile_append_of_pos hx, List.dropWhile_append_of_pos hx]
  cases ys with
  | nil => simp
  | cons y ys => simp [hy y rfl]

theorem splitFirst_append {separator : Char} {xs : List Char} (h : separator ∉ xs)
    (ys : List Char) : splitFirst separator (xs ++ separator :: ys) = (xs, ys) := by
  have hx : ∀ x ∈ xs, (x != separator) = true := by
    intro x hx
    exact bne_iff_ne.2 fun he => h (he ▸ hx)
  have ends : ∀ c ∈ (separator :: ys).head?, (c != separator) = false := by simp
  obtain ⟨ht, hd⟩ := takeWhile_dropWhile_append hx ends
  rw [splitFirst, ht, hd]
  rfl

end MultiCluster.Text
