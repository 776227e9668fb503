import Mathlib.Data.List.DropRight
import Mathlib.Data.List.Induction
import Mathlib.Data.List.TakeWhile
import MultiCluster.Text.Blank

/-! What is left of a text when its ends are cut off. -/
namespace MultiCluster.Text

theorem exists_eq_dropEnd_append {α : Type} (test : α → Bool) (xs : List α) :
    ∃ ys, xs = dropEnd test xs ++ ys ∧ ∀ y ∈ ys, test y = true := by
  refine ⟨(xs.reverse.takeWhile test).reverse, ?_, fun y hy => ?_⟩
  · rw [dropEnd, ← List.reverse_append, List.takeWhile_append_dropWhile, List.reverse_reverse]
  · exact List.mem_takeWhile_imp (List.mem_reverse.1 hy)

theorem dropEnd_append_of_all {α : Type} {test : α → Bool} {xs ys : List α}
    (h : ∀ y ∈ ys, test y = true) : dropEnd test (xs ++ ys) = dropEnd test xs := by
  have hr : ∀ y ∈ ys.reverse, test y = true := fun y hy => h y (List.mem_reverse.1 hy)
  rw [dropEnd, List.reverse_append, List.dropWhile_append_of_pos hr, dropEnd]

theorem dropEnd_eq_self_iff {α : Type} {test : α → Bool} {xs : List α} :
    dropEnd test xs = xs ↔ ∀ x ∈ xs.getLast?, test x = false := by
  cases xs using List.reverseRecOn with
  | nil => simp [dropEnd]
  | append_singleton xs x =>
    have ends : dropEnd test (xs ++ [x]) = (List.dropWhile test (x :: xs.reverse)).reverse := by
      rw [dropEnd, List.reverse_append, List.reverse_singleton, List.singleton_append]
    rw [ends]
    cases hx : test x with
    | false => simp [hx]
    | true =>
      have shorter : (xs.reverse.dropWhile test).length ≤ xs.length := by
        simpa using (List.dropWhile_sublist test (l := xs.reverse)).length_le
      constructor
      · intro h
        have hl := congrArg List.length h
        rw [List.dropWhile_cons_of_pos hx, List.length_reverse, List.length_append] at hl
        simp only [List.length_singleton] at hl
        omega
      · intro h
        rw [h x (by simp)] at hx
        cases hx

theorem withoutSlashes_append {s t : String} (h : ∀ c ∈ t.toList, c = '/') :
    withoutSlashes (s ++ t) = withoutSlashes s := by
  rw [withoutSlashes, String.toList_append,
    dropEnd_append_of_all fun c hc => beq_iff_eq.2 (h c hc), withoutSlashes]

theorem length_withoutSlashes_le (s : String) : (withoutSlashes s).length ≤ s.length := by
  obtain ⟨cs, hcs, -⟩ := exists_eq_dropEnd_append (· == '/') s.toList
  have hl := congrArg List.length hcs
  rw [List.length_append, String.length_toList] at hl
  rw [withoutSlashes, String.length_ofList]
  omega

theorem withoutSlashes_eq_self_iff {s : String} :
    withoutSlashes s = s ↔ ∀ c ∈ s.toList.getLast?, c ≠ '/' := by
  rw [withoutSlashes, ← String.toList_inj, String.toList_ofList, dropEnd_eq_self_iff]
  simp

/-- A text without blanks has nothing to trim. -/
theorem trimChars_of_any {cs : List Char} (h : cs.any isBlank = false) : trimChars cs = cs := by
  have start {cs : List Char} (h : cs.any isBlank = false) : cs.dropWhile isBlank = cs := by
    cases cs with
    | nil => rfl
    | cons c cs =>
      have hc : isBlank c = false := (Bool.or_eq_false_iff.1 h).1
      rw [List.dropWhile_cons, hc]
      rfl
  have back : cs.reverse.any isBlank = false := by rw [List.any_reverse, h]
  rw [trimChars, trimStart, start h, trimEnd, dropEnd, start back, List.reverse_reverse]

theorem isBlank_of_isDigit {c : Char} (h : c.isDigit = true) : isBlank c = false := by
  have hc : 48 ≤ c.toNat ∧ c.toNat ≤ 57 := Char.isDigit_iff_toNat.1 h
  simp only [isBlank, blankRanges, List.any_cons, List.any_nil, Bool.or_false, Bool.or_eq_false_iff,
    Bool.and_eq_false_iff, decide_eq_false_iff_not]
  omega

/-- What stands in a text between white space, and does not begin or end with any. -/
structure IsCore (cs core : List Char) : Prop where
  between : ∃ before behind, cs = before ++ core ++ behind ∧ (∀ c ∈ before, isBlank c = true) ∧
    ∀ c ∈ behind, isBlank c = true
  begins : ∀ c ∈ core.head?, isBlank c = false
  ends : ∀ c ∈ core.getLast?, isBlank c = false

theorem isCore_trimChars (cs : List Char) : IsCore cs (trimChars cs) := by
  obtain ⟨behind, hb, hblank⟩ := exists_eq_dropEnd_append isBlank (trimStart cs)
  change trimStart cs = trimChars cs ++ behind at hb
  have front : cs = cs.takeWhile isBlank ++ trimStart cs := List.takeWhile_append_dropWhile.symm
  constructor
  case between =>
    refine ⟨cs.takeWhile isBlank, behind, ?_, fun c hc => List.mem_takeWhile_imp hc, hblank⟩
    rw [List.append_assoc, ← hb, ← front]
  case begins =>
    intro c hc
    have head : (cs.dropWhile isBlank).head? = some c := by
      rw [← trimStart, hb, List.head?_append, Option.mem_def.1 hc]
      rfl
    have first := List.head?_dropWhile_not isBlank cs
    rw [head] at first
    exact first
  case ends =>
    refine dropEnd_eq_self_iff.1 ?_
    rw [trimChars, trimEnd, dropEnd, dropEnd, List.reverse_reverse, List.dropWhile_idempotent _ _]

/-- Trimming leaves the core of a text. -/
theorem trimChars_eq_iff {cs core : List Char} : trimChars cs = core ↔ IsCore cs core := by
  constructor
  · rintro rfl
    exact isCore_trimChars cs
  · rintro ⟨⟨before, behind, rfl, hbefore, hbehind⟩, begins, ends⟩
    have kept : dropEnd isBlank (core ++ behind) = core := by
      rw [dropEnd_append_of_all hbehind, dropEnd_eq_self_iff.2 ends]
    rw [trimChars, trimStart, List.append_assoc, List.dropWhile_append_of_pos hbefore, trimEnd]
    cases core with
    | nil =>
      have none : behind.dropWhile isBlank = [] := List.dropWhile_eq_nil_iff.2 hbehind
      rw [List.nil_append, none]
      rfl
    | cons c core =>
      have hc : isBlank c = false := begins c rfl
      rw [List.cons_append, List.dropWhile_cons_of_neg (by simp [hc])]
      exact kept

end MultiCluster.Text
