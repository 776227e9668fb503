import Mathlib.Algebra.Order.Ring.Int
import Mathlib.Data.List.Flatten
import MultiCluster.Page
import MultiCluster.Sweep

/-! Pages of a list: where they are cut, on words as well, that together they make up the list, and
that batches are pages. -/
namespace MultiCluster

variable {α : Type}

/-- The items between two ends. There is no answer if the ends are in the wrong order or not both in
the list. -/
def between? (start stop : Nat) (items : List α) : Option (List α) :=
  if start ≤ stop ∧ stop ≤ items.length then some ((items.drop start).take (stop - start)) else none

namespace PageRequest

/-- The bounds on words: pages and sizes have 32 bits and are multiplied as words of 64. There is no
answer if a number leaves its word. -/
def boundsOnWords? (p : PageRequest) (total : Nat) : Option (Nat × Nat) := do
  let page ← Word.unsigned? 32 p.page
  let size ← Word.unsigned? 32 p.size
  let before ← Word.unsigned? 64 ((page - 1) * size)
  let behind ← Word.unsigned? 64 (page * size)
  return (min before total, min behind total)

/-- A number that is negative or too great is replaced by the nearest that is neither. -/
def clampTo (total : Nat) (i : Int) : Int := max 0 (min i total)

/-- Where a page is cut out of a list. -/
structure IsCut (p : PageRequest) (items : List α) (start stop : Nat) : Prop where
  start_eq : (start : Int) = clampTo items.length ((p.page - 1) * p.size)
  stop_eq : (stop : Int) = clampTo items.length (p.page * p.size)
  ordered : start ≤ stop
  inside : stop ≤ items.length
  words : p.boundsOnWords? items.length = some (start, stop)
  slice : between? start stop items = some (p.slice items)

/-- How many pages there are that are not empty. -/
def count (size total : Nat) : Nat := (total + size - 1) / size

theorem bounds_ordered (p : PageRequest) (total : Nat) :
    (p.bounds total).1 ≤ (p.bounds total).2 ∧ (p.bounds total).2 ≤ total := by
  have h : (p.page - 1) * p.size ≤ p.page * p.size := Nat.mul_le_mul_right _ (Nat.sub_le _ _)
  simp only [bounds]
  omega

/-- No product of pages and sizes leaves its word. -/
theorem boundsOnWords?_eq (p : PageRequest) (total : Nat) (hp : p.page < 2 ^ 32)
    (hs : p.size < 2 ^ 32) : p.boundsOnWords? total = some (p.bounds total) := by
  have behind : p.page * p.size < 2 ^ 32 * 2 ^ 32 := Nat.mul_lt_mul'' hp hs
  have before : (p.page - 1) * p.size < 2 ^ 32 * 2 ^ 32 :=
    Nat.lt_of_le_of_lt (Nat.mul_le_mul_right p.size (Nat.sub_le p.page 1)) behind
  have word {width n : Nat} (h : n < 2 ^ width) : Word.unsigned? width n = some n := if_pos h
  simp only [boundsOnWords?, bounds, word hp, word hs, Option.bind_eq_bind, Option.bind_some,
    @word 64 _ before, @word 64 _ behind]
  rfl

/-- Every page is cut at its bounds, page zero and pages of size zero as well. -/
theorem bounds_isCut (p : PageRequest) (items : List α) (hp : p.page < 2 ^ 32)
    (hs : p.size < 2 ^ 32) :
    p.IsCut items (p.bounds items.length).1 (p.bounds items.length).2 where
  start_eq := by
    cases h : p.page with
    | zero => simp [bounds, clampTo, h]
    | succ n =>
      simp only [bounds, clampTo, h, Nat.add_sub_cancel, Nat.cast_succ, add_sub_cancel_right,
        ← Nat.cast_mul]
      omega
  stop_eq := by
    simp only [bounds, clampTo, ← Nat.cast_mul]
    omega
  ordered := (p.bounds_ordered _).1
  inside := (p.bounds_ordered _).2
  words := p.boundsOnWords?_eq items.length hp hs
  slice := by
    rw [between?, if_pos (p.bounds_ordered items.length)]
    exact congrArg some List.drop_take.symm

theorem slice_zero (size : Nat) (items : List α) : slice ⟨0, size⟩ items = [] := by
  simp [slice, bounds]

/-- A page is what is taken behind those before it. -/
theorem slice_succ (i size : Nat) (items : List α) :
    slice ⟨i + 1, size⟩ items = (items.drop (i * size)).take size := by
  simp only [slice, bounds, Nat.add_sub_cancel, Nat.succ_mul]
  obtain h | h := Nat.le_total (i * size) items.length
  · rw [Nat.min_eq_left h, ← List.take_eq_take_min, List.drop_take, Nat.add_sub_cancel_left]
  · rw [Nat.min_eq_right h, Nat.min_eq_right (Nat.le_add_right_of_le h), List.take_length,
      List.drop_eq_nil_of_le (Nat.le_refl _), List.drop_eq_nil_of_le h, List.take_nil]

theorem slice_length (i size : Nat) (items : List α) :
    (slice ⟨i + 1, size⟩ items).length = min size (items.length - i * size) := by
  rw [slice_succ, List.length_take, List.length_drop]

/-- The first pages together are the beginning of the list. -/
theorem flatMap_slice (size n : Nat) (items : List α) :
    ((List.range n).flatMap fun i => slice ⟨i + 1, size⟩ items) = items.take (n * size) := by
  induction n with
  | zero => simp
  | succ n ih =>
    rw [List.range_succ, List.flatMap_append, ih, List.flatMap_singleton, slice_succ, Nat.succ_mul,
      List.take_add]

section Count

variable {size : Nat} (hs : 0 < size)
include hs

theorem le_count_mul (total : Nat) : total ≤ count size total * size := by
  have h := Nat.div_add_mod (total + size - 1) size
  have small := Nat.mod_lt (total + size - 1) hs
  rw [Nat.mul_comm] at h
  simp only [count]
  omega

theorem lt_count_iff (i total : Nat) : i < count size total ↔ i * size < total := by
  rw [count, Nat.lt_iff_add_one_le, Nat.le_div_iff_mul_le hs, Nat.succ_mul]
  omega

/-- One page is taken off the front. -/
theorem count_succ {total : Nat} (ht : 0 < total) :
    count size total = count size (total - size) + 1 := by
  simp only [count]
  obtain h | h := Nat.le_total size total
  · rw [← Nat.add_div_right _ hs]
    congr 1
    omega
  · rw [Nat.sub_eq_zero_of_le h, Nat.zero_add, Nat.div_eq_of_lt (by omega : size - 1 < size)]
    exact Nat.div_eq_of_lt_le (by omega) (by omega)

end Count

/-- Batches are the pages of their size. -/
theorem batches_eq {size : Nat} (hs : 0 < size) (items : List α) :
    Sweep.batches size items =
      (List.range (count size items.length)).map fun i => slice ⟨i + 1, size⟩ items := by
  fun_induction Sweep.batches size items with
  | case1 => simp [count, Nat.div_eq_of_lt (Nat.sub_lt hs Nat.one_pos)]
  | case2 x rest ih =>
    obtain ⟨n, rfl⟩ := Nat.exists_eq_add_one.2 hs
    rw [ih, List.length_cons, count_succ hs (Nat.succ_pos _), List.range_succ_eq_map]
    simp [slice_succ, Nat.succ_mul, Function.comp_def, ← Nat.add_assoc, Nat.add_comm n (_ * _)]

/-- That a list is paged: each page is cut where it should be, and the pages of one size make up the
list. -/
structure IsPaged (items : List α) : Prop where
  cut : ∀ p : PageRequest, p.page < 2 ^ 32 → p.size < 2 ^ 32 → ∃ start stop,
    p.IsCut items start stop
  whole : ∀ size, 0 < size →
    ((List.range (count size items.length)).flatMap fun i => slice ⟨i + 1, size⟩ items) = items
  /-- All pages but the last are full, and the last is not empty. -/
  full : ∀ size page, 0 < size → 0 < page → page < count size items.length →
    (slice ⟨page, size⟩ items).length = size
  last : ∀ size, 0 < size → 0 < count size items.length →
    slice ⟨count size items.length, size⟩ items ≠ []
  outside : ∀ size page, 0 < size → page = 0 ∨ count size items.length < page →
    slice ⟨page, size⟩ items = []
  batches : ∀ size, 0 < size → Sweep.batches size items =
    (List.range (count size items.length)).map fun i => slice ⟨i + 1, size⟩ items

theorem isPaged (items : List α) : IsPaged items where
  cut p hp hs := ⟨_, _, p.bounds_isCut items hp hs⟩
  whole size hs := by rw [flatMap_slice, List.take_of_length_le (le_count_mul hs _)]
  full size page hs hp hc := by
    obtain ⟨i, rfl⟩ := Nat.exists_eq_add_one.2 hp
    have more := (lt_count_iff hs (i + 1) items.length).1 hc
    rw [Nat.succ_mul] at more
    rw [slice_length]
    omega
  last size hs hc := by
    obtain ⟨i, hi⟩ := Nat.exists_eq_add_one.2 hc
    have some := (lt_count_iff hs i items.length).1 (by omega)
    rw [hi, Ne, ← List.length_eq_zero_iff, slice_length]
    omega
  outside size page hs hp := by
    cases page with
    | zero => exact slice_zero size items
    | succ i =>
      have none := mt (lt_count_iff hs i items.length).2 (by omega)
      rw [← List.length_eq_zero_iff, slice_length]
      omega
  batches size hs := batches_eq hs items

end PageRequest
end MultiCluster
