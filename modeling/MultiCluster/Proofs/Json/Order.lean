import MultiCluster.Member
import MultiCluster.Proofs.Json.Record

/-! JSON values that differ in the order of members alone. What a cluster was registered with and
its status are read from one as from the other. -/
namespace MultiCluster.Json

section

variable {α β : Type} {R : α → β → Prop} {xs : List α}

/-- What is related to at most one item is at most one. -/
theorem exists_toList {b : Option β} (h : List.Forall₂ R xs b.toList) :
    ∃ a : Option α, xs = a.toList ∧ Option.Rel R a b := by
  cases b with
  | none => exact ⟨none, List.forall₂_nil_right_iff.1 h, .none⟩
  | some b =>
    obtain ⟨a, rest, hab, hr, rfl⟩ := List.forall₂_cons_right_iff.1 h
    rw [List.forall₂_nil_right_iff.1 hr]
    exact ⟨some a, rfl, .some hab⟩

theorem exists_singleton {b : β} (h : List.Forall₂ R xs [b]) : ∃ a, xs = [a] ∧ R a b := by
  obtain ⟨_, rfl, hr⟩ := exists_toList (b := some b) h
  cases hr with
  | some hab => exact ⟨_, rfl, hab⟩

end

/-- Whether two values differ in the order of members alone: under each key, their objects have the
same values in the same order. -/
inductive Reorders : Json → Json → Prop where
  | refl (j : Json) : Reorders j j
  | arr {xs ys : List Json} (items : List.Forall₂ Reorders xs ys) : Reorders (.arr xs) (.arr ys)
  | obj {xs ys : List (String × Json)}
      (members : ∀ key, List.Forall₂ Reorders (given key xs) (given key ys)) :
      Reorders (.obj xs) (.obj ys)

namespace Reorders

variable {j : Json}

theorem forall₂_refl (js : List Json) : List.Forall₂ Reorders js js :=
  List.forall₂_same.2 fun j _ => .refl j

theorem arr_right {ys : List Json} (h : j.Reorders (.arr ys)) :
    ∃ xs, j = .arr xs ∧ List.Forall₂ Reorders xs ys := by
  cases h with
  | refl => exact ⟨ys, rfl, forall₂_refl ys⟩
  | arr items => exact ⟨_, rfl, items⟩

theorem obj_right {ys : List (String × Json)} (h : j.Reorders (.obj ys)) :
    ∃ xs, j = .obj xs ∧ ∀ key, List.Forall₂ Reorders (given key xs) (given key ys) := by
  cases h with
  | refl => exact ⟨ys, rfl, fun key => forall₂_refl _⟩
  | obj members => exact ⟨_, rfl, members⟩

theorem str_right {s : String} (h : j.Reorders (.str s)) : j = .str s := by
  cases h
  rfl

theorem int_right {i : Int} (h : j.Reorders (.int i)) : j = .int i := by
  cases h
  rfl

theorem null_right (h : j.Reorders .null) : j = .null := by
  cases h
  rfl

/-- There is no other order for one member. -/
theorem single_right {s : String} (h : j.Reorders (.obj [(s, .null)])) : j = .obj [(s, .null)] := by
  obtain ⟨xs, rfl, hm⟩ := h.obj_right
  have lone (key : String) : given key [(s, .null)] = if s = key then [.null] else [] := by
    rw [given_cons, given, List.filterMap_nil, List.append_nil]
  have others (key : String) (hk : s ≠ key) : given key xs = [] := by
    have hg := hm key
    rwa [lone, if_neg hk, List.forall₂_nil_right_iff] at hg
  have own : given s xs = [.null] := by
    have hg := hm s
    rw [lone, if_pos rfl] at hg
    obtain ⟨x, he, hx⟩ := exists_singleton hg
    rw [he, null_right hx]
  have keys : ∀ m ∈ xs, m.1 = s := by
    intro m hm
    by_contra hne
    have hg : m.2 ∈ given m.1 xs := List.mem_filterMap.2 ⟨m, hm, if_pos rfl⟩
    rw [others m.1 (Ne.symm hne)] at hg
    cases hg
  have values : given s xs = xs.map (·.2) :=
    List.filterMap_eq_map_iff_forall_eq_some.2 fun m hm => if_pos (keys m hm)
  rw [own] at values
  obtain ⟨⟨key, value⟩, rfl, hv⟩ := List.map_eq_singleton_iff.1 values.symm
  obtain rfl : key = s := keys _ (List.mem_singleton_self _)
  obtain rfl : value = .null := hv
  rfl

end Reorders

namespace Decode

variable {α β : Type}

/-- Whether a step that succeeds for something comes to the same for whatever is related to it. -/
def Respects (R : β → β → Prop) (step : β → Except Fault α) : Prop :=
  ∀ x y a, R x y → step y = .ok a → step x = .ok a

section

variable {R : β → β → Prop}

theorem respects_pure (a : α) : Respects R fun _ => .ok a := fun _ _ _ _ h => h

theorem Respects.bind {γ : Type} {f : β → Except Fault α} {g : α → β → Except Fault γ}
    (hf : Respects R f) (hg : ∀ a, Respects R (g a)) :
    Respects R fun x => f x >>= fun a => g a x := by
  intro x y c hxy h
  obtain ⟨a, ha, hc⟩ := bind_eq_ok_iff.1 h
  exact bind_eq_ok_iff.2 ⟨a, hf x y a hxy ha, hg a x y c hxy hc⟩

end

theorem respects_text : Respects Reorders text := by
  intro j k s h hk
  obtain rfl := text_eq_ok_iff.1 hk
  rwa [h.str_right]

theorem respects_intBetween (low high : Int) (name : String) :
    Respects Reorders (intBetween low high name) := by
  intro j k i h hk
  cases k with
  | int i => rwa [h.int_right]
  | _ => cases hk

theorem respects_named (names : List (String × α)) (expected : String) :
    Respects Reorders (named names expected) := by
  intro j k a h hk
  obtain ⟨name, hn, rfl | rfl⟩ := named_eq_ok_iff.1 hk
  · rwa [h.str_right]
  · rwa [h.single_right]

/-- Whether fields are given in the same way and differ in the order of members alone. -/
structure Fields.Reorders (f g : Fields) : Prop where
  values : List.Forall₂ (Option.Rel Json.Reorders) f.values g.values
  position : f.position = g.position

theorem Fields.Reorders.value? {f g : Fields} (h : f.Reorders g) (i : Nat) :
    Option.Rel Json.Reorders (f.value? i) (g.value? i) := by
  obtain ⟨hv, -⟩ := h
  rw [Fields.value?, Fields.value?]
  generalize f.values = xs, g.values = ys at hv
  induction hv generalizing i with
  | nil => exact .none
  | cons hxy _ ih =>
    cases i with
    | zero => exact hxy
    | succ i => exact ih i

/-- A field with a default. -/
theorem Respects.withDefault {item : Decoder α} (h : Respects Json.Reorders item) (i : Nat)
    (default : α) : Respects Fields.Reorders fun f => f.withDefault i item default := by
  intro f g a hfg hg
  have hv := hfg.value? i
  simp only [withDefault_eq] at hg ⊢
  unfold Fields.value? at hv
  generalize f.values[i]?.join = x, g.values[i]?.join = y at hv hg ⊢
  cases hv with
  | none => exact hg
  | some hxy => exact h _ _ a hxy hg

-- The members with the names are found in either order, and hold values that are related in turn.
private theorem exists_values {names : List String} {xs ys : List (String × Json)}
    (h : ∀ key, List.Forall₂ Json.Reorders (given key xs) (given key ys))
    {vs : List (Option Json)} (hv : (names.map ([·])).mapM (memberOf ys) = .ok vs) :
    ∃ us, (names.map ([·])).mapM (memberOf xs) = .ok us ∧
      List.Forall₂ (Option.Rel Json.Reorders) us vs := by
  simp only [mapM_eq_ok_iff_forall₂, List.forall₂_map_left_iff, memberOf_eq_ok_iff] at hv ⊢
  induction hv with
  | nil => exact ⟨[], .nil, .nil⟩
  | @cons name v _ _ hn _ ih =>
    obtain ⟨us, hu, hr⟩ := ih
    have hg := h name
    rw [hn] at hg
    obtain ⟨u, hx, huv⟩ := exists_toList hg
    exact ⟨u :: us, .cons hx hu, .cons huv hr⟩

/-- A record is read from its fields, whatever their order. -/
theorem Respects.record {build : Fields → Except Fault α} (h : Respects Fields.Reorders build)
    (expected : String) (names : List String) :
    Respects Json.Reorders (Decode.record expected (names.map ([·])) build) := by
  intro j k a hjk hk
  cases k with
  | obj ys =>
    obtain ⟨xs, rfl, hm⟩ := hjk.obj_right
    obtain ⟨vs, hv, hb⟩ := bind_eq_ok_iff.1 hk
    obtain ⟨us, hu, hr⟩ := exists_values hm hv
    rw [record_obj hu]
    exact h ⟨us, none⟩ ⟨vs, none⟩ a ⟨hr, rfl⟩ hb
  | arr ys =>
    obtain ⟨xs, rfl, hi⟩ := hjk.arr_right
    have hf (position : Option String) :
        Fields.Reorders ⟨xs.map some, position⟩ ⟨ys.map some, position⟩ := by
      refine ⟨?_, rfl⟩
      rw [List.forall₂_map_left_iff, List.forall₂_map_right_iff]
      exact hi.imp fun _ _ => .some
    simp only [Decode.record, hi.length_eq] at hk ⊢
    obtain ⟨b, hb, hrest⟩ := bind_eq_ok_iff.1 hk
    exact bind_eq_ok_iff.2 ⟨b, h _ _ b (hf _) hb, hrest⟩
  | _ => cases hk

end Decode
end MultiCluster.Json

namespace MultiCluster

open Json.Decode

theorem Registration.respects_ofJson : Respects Json.Reorders Registration.ofJson := by
  refine Respects.record ?_ "a cluster description" ["kubeconfig", "displayname", "prometheusurl"]
  have text (i : Nat) := respects_text.withDefault i ""
  exact (text 0).bind fun _ => (text 1).bind fun _ => (text 2).bind fun _ => respects_pure _

theorem Status.respects_ofJson : Respects Json.Reorders Status.ofJson := by
  have int (i : Nat) : Respects Fields.Reorders fun f => f.withDefault i int64 0 :=
    (respects_intBetween _ _ _).withDefault i 0
  have health : Respects Fields.Reorders fun f => f.withDefault 4 Health.ofJson .unknown :=
    (respects_named _ _).withDefault 4 _
  exact Respects.record ((int 0).bind fun _ => (int 1).bind fun _ => (int 2).bind fun _ =>
    (int 3).bind fun _ => health.bind fun _ => respects_pure _) "a status"
    ["cpu_capacity", "memory_capacity", "cpu_usage", "memory_usage", "health"]

end MultiCluster
