import Mathlib.Data.List.Nodup
import MultiCluster.Toml.Parser

/-! What is read from a TOML document: no table has a key twice, and nothing in it is null. -/
namespace MultiCluster.Toml

/-- What a TOML document can hold. -/
inductive IsValue : Json → Prop where
  | bool (b : Bool) : IsValue (.bool b)
  | int (i : Int) : IsValue (.int i)
  | real (x : Binary64) : IsValue (.real x)
  | str (s : String) : IsValue (.str s)
  | arr {items : List Json} : (∀ j ∈ items, IsValue j) → IsValue (.arr items)
  | obj {members : List (String × Json)} : (members.map (·.1)).Nodup →
    (∀ m ∈ members, IsValue m.2) → IsValue (.obj members)

theorem IsValue.lookup {members : List (String × Json)} (h : IsValue (.obj members)) {key : String}
    {j : Json} (hl : members.lookup key = some j) : IsValue j := by
  obtain ⟨before, behind, rfl, -⟩ := List.lookup_eq_some_iff.1 hl
  cases h with
  | obj _ values => exact values (key, j) (by simp)

namespace Item

theorem entriesToJson_eq_map (es : Entries) :
    entriesToJson es = es.map fun e => (e.1, e.2.toJson) := by
  induction es with
  | nil => rfl
  | cons e es ih =>
    obtain ⟨key, item⟩ := e
    rw [entriesToJson, ih, List.map_cons]

theorem tablesToJson_eq_map (items : List Entries) :
    tablesToJson items = items.map fun es => .obj (entriesToJson es) := by
  induction items with
  | nil => rfl
  | cons es items ih => rw [tablesToJson, ih, List.map_cons]

end Item

namespace Entries

/-- What a key stands for. -/
def IsTable (es : Entries) : Prop := IsValue (.obj (Item.entriesToJson es))

theorem isTable_iff {es : Entries} :
    es.IsTable ↔ (es.map (·.1)).Nodup ∧ ∀ e ∈ es, IsValue e.2.toJson := by
  have keys : (es.map fun e => (e.1, e.2.toJson)).map (·.1) = es.map (·.1) := by
    rw [List.map_map]
    rfl
  rw [IsTable, Item.entriesToJson_eq_map]
  constructor
  · rintro (_ | _ | _ | _ | _ | ⟨nodup, values⟩)
    rw [keys] at nodup
    exact ⟨nodup, fun e he => values _ (List.mem_map_of_mem he)⟩
  · rintro ⟨nodup, values⟩
    refine .obj (by rwa [keys]) fun m hm => ?_
    obtain ⟨e, he, rfl⟩ := List.mem_map.1 hm
    exact values e he

theorem isTable_nil : IsTable [] := isTable_iff.2 ⟨List.nodup_nil, nofun⟩

variable {es : Entries} {key : String} {item : Item}

theorem mem_put {e : String × Item} (h : e ∈ es.put key item) : e = (key, item) ∨ e ∈ es := by
  induction es with
  | nil => exact .inl (List.mem_singleton.1 h)
  | cons head es ih =>
    obtain ⟨k, i⟩ := head
    rw [put] at h
    split at h
    · next hk =>
      subst hk
      exact (List.mem_cons.1 h).imp_right (List.mem_cons_of_mem _)
    · obtain rfl | h := List.mem_cons.1 h
      · exact .inr List.mem_cons_self
      · exact (ih h).imp_right (List.mem_cons_of_mem _)

theorem nodup_put (h : (es.map (·.1)).Nodup) : ((es.put key item).map (·.1)).Nodup := by
  induction es with
  | nil => exact List.nodup_singleton _
  | cons head es ih =>
    obtain ⟨k, i⟩ := head
    rw [List.map_cons, List.nodup_cons] at h
    rw [put]
    split
    · exact List.nodup_cons.2 h
    · next hk =>
      refine List.nodup_cons.2 ⟨fun hm => ?_, ih h.2⟩
      obtain ⟨e, he, hek⟩ := List.mem_map.1 hm
      obtain rfl | he := mem_put he
      · exact hk hek.symm
      · exact h.1 (List.mem_map.2 ⟨e, he, hek⟩)

/-- A table in which a key is made to stand for something. -/
theorem isTable_put (h : es.IsTable) (hi : IsValue item.toJson) : (es.put key item).IsTable := by
  obtain ⟨nodup, values⟩ := isTable_iff.1 h
  refine isTable_iff.2 ⟨nodup_put nodup, fun e he => ?_⟩
  obtain rfl | he := mem_put he
  · exact hi
  · exact values e he

theorem isValue_of_find? (h : es.IsTable) (hf : es.find? key = some item) :
    IsValue item.toJson := by
  obtain ⟨before, behind, rfl, -⟩ := List.lookup_eq_some_iff.1 hf
  exact (isTable_iff.1 h).2 (key, item) (by simp)

theorem isTable_of_mem {items : List Entries} (h : IsValue (Item.tables items).toJson)
    (he : es ∈ items) : es.IsTable := by
  rw [Item.toJson, Item.tablesToJson_eq_map] at h
  cases h with
  | arr h => exact h _ (List.mem_map_of_mem he)

theorem isValue_tables {items : List Entries} (h : ∀ es ∈ items, es.IsTable) :
    IsValue (Item.tables items).toJson := by
  rw [Item.toJson, Item.tablesToJson_eq_map]
  refine .arr fun j hj => ?_
  obtain ⟨es, he, rfl⟩ := List.mem_map.1 hj
  exact h es he

/-- A change to a table makes a table of it. -/
def Keeps (edit : Origin → Entries → Option Entries) : Prop :=
  ∀ origin es es', es.IsTable → edit origin es = some es' → es'.IsTable

/-- A change at the end of a path makes a table of the table that the path begins in. -/
theorem Keeps.change {edit : Origin → Entries → Option Entries} (he : Keeps edit) (byDots : Bool)
    (origin : Origin) (path : List String) {es es' : Entries} (h : es.IsTable)
    (hc : Entries.change byDots edit origin path es = some es') : es'.IsTable := by
  induction path generalizing origin es es' with
  | nil => exact he origin es es' h hc
  | cons key rest ih =>
    rw [Entries.change] at hc
    split at hc
    · obtain ⟨inner, hi, hc⟩ := Option.bind_eq_some_iff.1 hc
      obtain rfl := Option.some.inj hc
      exact isTable_put h (ih _ isTable_nil hi)
    · cases hc
    · next inner hf =>
      split at hc
      · cases hc
      · obtain ⟨changed, hi, hc⟩ := Option.bind_eq_some_iff.1 hc
        obtain rfl := Option.some.inj hc
        exact isTable_put h (ih _ (isValue_of_find? h hf) hi)
    · next items hf =>
      obtain ⟨last, hl, hc⟩ := Option.bind_eq_some_iff.1 hc
      obtain ⟨changed, hi, hc⟩ := Option.bind_eq_some_iff.1 hc
      obtain rfl := Option.some.inj hc
      have tables (es : Entries) : es ∈ items → es.IsTable := isTable_of_mem (isValue_of_find? h hf)
      refine isTable_put h (isValue_tables fun es hes => ?_)
      obtain hes | hes := List.mem_append.1 hes
      · exact tables es (List.dropLast_subset items hes)
      · obtain rfl := List.mem_singleton.1 hes
        exact ih _ (tables last (List.mem_of_getLast? hl)) hi

theorem isTable_openTable {path : List String} {es' : Entries} (h : es.IsTable)
    (ho : es.openTable path = some es') : es'.IsTable := by
  obtain ⟨key, -, hc⟩ := Option.bind_eq_some_iff.1 ho
  refine Keeps.change (fun _ inner inner' hi hp => ?_) _ _ _ h hc
  split at hp
  · obtain rfl := Option.some.inj hp
    exact isTable_put hi isTable_nil
  · next own hf =>
    obtain rfl := Option.some.inj hp
    have := isValue_of_find? hi hf
    exact isTable_put hi this
  · cases hp

theorem isTable_appendTable {path : List String} {es' : Entries} (h : es.IsTable)
    (ha : es.appendTable path = some es') : es'.IsTable := by
  obtain ⟨key, -, hc⟩ := Option.bind_eq_some_iff.1 ha
  refine Keeps.change (fun _ inner inner' hi hp => ?_) _ _ _ h hc
  split at hp
  · obtain rfl := Option.some.inj hp
    exact isTable_put hi (isValue_tables (by simpa using isTable_nil))
  · next items hf =>
    obtain rfl := Option.some.inj hp
    refine isTable_put hi (isValue_tables fun es hes => ?_)
    obtain hes | hes := List.mem_append.1 hes
    · exact isTable_of_mem (isValue_of_find? hi hf) hes
    · obtain rfl := List.mem_singleton.1 hes
      exact isTable_nil
  · cases hp

theorem isTable_assign {path : List String} {value : Json} {es' : Entries} (h : es.IsTable)
    (hv : IsValue value) (ha : es.assign path value = some es') : es'.IsTable := by
  obtain ⟨key, -, hc⟩ := Option.bind_eq_some_iff.1 ha
  refine Keeps.change (fun _ inner inner' hi hp => ?_) _ _ _ h hc
  split at hp
  · cases hp
  · unfold add at hp
    split at hp
    · cases hp
    · obtain rfl := Option.some.inj hp
      exact isTable_put hi hv

end Entries

theorem isValue_basedInteger {base : Nat} {cs : List Char} {j : Json}
    (h : basedInteger base cs = some j) : IsValue j := by
  obtain ⟨digits, -, h⟩ := Option.bind_eq_some_iff.1 h
  obtain ⟨n, -, h⟩ := Option.bind_eq_some_iff.1 h
  obtain ⟨i, -, rfl⟩ := Option.map_eq_some_iff.1 h
  exact .int i

theorem isValue_decimalNumber {negative : Bool} {cs : List Char} {j : Json}
    (h : decimalNumber negative cs = some j) : IsValue j := by
  obtain ⟨whole, -, h⟩ := Option.bind_eq_some_iff.1 h
  split at h
  · obtain ⟨i, -, rfl⟩ := Option.map_eq_some_iff.1 h
    exact .int i
  · split at h <;>
    · obtain ⟨⟨fraction, exponent⟩, -, h⟩ := Option.bind_eq_some_iff.1 h
      cases h
      exact .real _

theorem isValue_number? {cs : List Char} {j : Json} (h : number? cs = some j) : IsValue j := by
  unfold number? at h
  split at h
  · exact isValue_basedInteger h
  · exact isValue_basedInteger h
  · exact isValue_basedInteger h
  · dsimp only at h
    split at h
    · cases h
      exact .real _
    · cases h
      exact .real _
    · exact isValue_decimalNumber h

theorem isValue_readWord {cs rest : List Char} {j : Json} (h : readWord cs = some (j, rest)) :
    IsValue j := by
  unfold readWord at h
  dsimp only at h
  split at h
  · cases h
    exact .bool true
  · cases h
    exact .bool false
  · split at h
    · cases h
      exact .obj (by simp) (by simpa using .str _)
    · obtain ⟨i, hi, he⟩ := Option.map_eq_some_iff.1 h
      cases he
      exact isValue_number? hi

/-- With some fuel nothing but values is read. -/
structure ReadsValues (fuel : Nat) : Prop where
  value : ∀ {depth : Nat} {cs rest : List Char} {j : Json},
    readValue depth fuel cs = some (j, rest) → IsValue j
  items : ∀ {depth : Nat} {cs rest : List Char} {items : List Json},
    readItems depth fuel cs = some (items, rest) → ∀ j ∈ items, IsValue j
  pairs : ∀ {depth : Nat} {cs rest : List Char} {found es : Entries}, found.IsTable →
    readPairs depth fuel found cs = some (es, rest) → es.IsTable

namespace ReadsValues

variable {fuel depth : Nat} {cs rest : List Char}

theorem value_succ (reads : ReadsValues fuel) {j : Json}
    (h : readValue depth (fuel + 1) cs = some (j, rest)) : IsValue j := by
  unfold readValue at h
  dsimp only at h
  split at h
  · obtain ⟨⟨s, tail⟩, -, he⟩ := Option.map_eq_some_iff.1 h
    cases he
    exact .str s
  · obtain ⟨⟨s, tail⟩, -, he⟩ := Option.map_eq_some_iff.1 h
    cases he
    exact .str s
  · split at h
    · obtain ⟨⟨items, tail⟩, hr, he⟩ := Option.map_eq_some_iff.1 h
      cases he
      exact .arr (reads.items hr)
    · cases h
  · split at h
    · split at h
      · cases h
        exact .obj (by simp) (by simp)
      · obtain ⟨⟨es, tail⟩, hr, he⟩ := Option.map_eq_some_iff.1 h
        cases he
        exact reads.pairs Entries.isTable_nil hr
    · cases h
  · exact isValue_readWord h

theorem items_succ (reads : ReadsValues fuel) {items : List Json}
    (h : readItems depth (fuel + 1) cs = some (items, rest)) : ∀ j ∈ items, IsValue j := by
  unfold readItems at h
  split at h
  · cases h
    nofun
  · obtain ⟨⟨first, tail⟩, hv, h⟩ := Option.bind_eq_some_iff.1 h
    dsimp only at h
    split at h
    · obtain ⟨⟨others, tail⟩, hr, he⟩ := Option.map_eq_some_iff.1 h
      cases he
      exact List.forall_mem_cons.2 ⟨reads.value hv, reads.items hr⟩
    · cases h
      simpa using reads.value hv
    · cases h

theorem pairs_succ (reads : ReadsValues fuel) {found es : Entries} (hf : found.IsTable)
    (h : readPairs depth (fuel + 1) found cs = some (es, rest)) : es.IsTable := by
  unfold readPairs at h
  obtain ⟨⟨path, tail⟩, -, h⟩ := Option.bind_eq_some_iff.1 h
  dsimp only at h
  split at h
  · obtain ⟨⟨j, tail⟩, hv, h⟩ := Option.bind_eq_some_iff.1 h
    obtain ⟨grown, ha, h⟩ := Option.bind_eq_some_iff.1 h
    have grows : grown.IsTable := Entries.isTable_assign hf (reads.value hv) ha
    split at h
    · exact reads.pairs grows h
    · cases h
      exact grows
    · cases h
  · cases h

end ReadsValues

/-- The three readers call each other with less fuel. -/
theorem readsValues (fuel : Nat) : ReadsValues fuel := by
  induction fuel with
  | zero =>
    constructor
    · intro depth cs rest j h
      rw [readValue] at h
      cases h
    · intro depth cs rest items h
      rw [readItems] at h
      cases h
    · intro depth cs rest found es hf h
      rw [readPairs] at h
      cases h
  | succ fuel ih => exact ⟨ih.value_succ, ih.items_succ, ih.pairs_succ⟩

theorem isValue_readLine {cs rest : List Char} {path : List String} {value : Json}
    (h : readLine cs = some (.assignment path value, rest)) : IsValue value := by
  unfold readLine at h
  split at h
  · obtain ⟨⟨path, tail⟩, -, h⟩ := Option.bind_eq_some_iff.1 h
    dsimp only at h
    split at h <;> cases h
  · obtain ⟨⟨path, tail⟩, -, h⟩ := Option.bind_eq_some_iff.1 h
    dsimp only at h
    split at h <;> cases h
  · obtain ⟨⟨path, tail⟩, -, h⟩ := Option.bind_eq_some_iff.1 h
    dsimp only at h
    split at h
    · obtain ⟨⟨j, tail⟩, hv, h⟩ := Option.bind_eq_some_iff.1 h
      cases h
      exact (readsValues _).value hv
    · cases h

theorem isTable_add {d d' : Document} {line : Line} (h : d.entries.IsTable)
    (hv : ∀ path value, line = .assignment path value → IsValue value)
    (ha : d.add line = some d') : d'.entries.IsTable := by
  cases line with
  | header path =>
    obtain ⟨es, ho, rfl⟩ := Option.map_eq_some_iff.1 ha
    exact Entries.isTable_openTable h ho
  | listHeader path =>
    obtain ⟨es, ho, rfl⟩ := Option.map_eq_some_iff.1 ha
    exact Entries.isTable_appendTable h ho
  | assignment path value =>
    obtain ⟨es, hc, rfl⟩ := Option.map_eq_some_iff.1 ha
    exact Entries.Keeps.change (fun _ _ _ hi hp => Entries.isTable_assign hi (hv path value rfl) hp)
      _ _ _ h hc

theorem isTable_readLines {fuel : Nat} {d d' : Document} {cs : List Char} (h : d.entries.IsTable)
    (hr : readLines fuel d cs = some d') : d'.entries.IsTable := by
  induction fuel generalizing d cs with
  | zero => cases hr
  | succ fuel ih =>
    rw [readLines] at hr
    split at hr
    · cases hr
      exact h
    · obtain ⟨⟨line, rest⟩, hl, hr⟩ := Option.bind_eq_some_iff.1 hr
      obtain ⟨added, ha, hr⟩ := Option.bind_eq_some_iff.1 hr
      obtain ⟨tail, -, hr⟩ := Option.bind_eq_some_iff.1 hr
      refine ih (isTable_add h ?_ ha) hr
      rintro path value rfl
      exact isValue_readLine hl

/-- What is read from a document: no key of a table in it comes twice, and nothing is null. -/
theorem isValue_of_parse? {text : String} {j : Json} (h : parse? text = some j) : IsValue j := by
  obtain ⟨d, hr, rfl⟩ := Option.map_eq_some_iff.1 h
  exact isTable_readLines Entries.isTable_nil hr

/-- Which texts are documents, and what they hold. -/
structure Dialect where
  read : String → Option Json
  isValue : ∀ {text : String} {j : Json}, read text = some j → IsValue j

/-- The documents that the parser takes. -/
def Dialect.parsed : Dialect := ⟨parse?, isValue_of_parse?⟩

end MultiCluster.Toml
