import MultiCluster.Proofs.Json.Fields
import MultiCluster.Proofs.Json.Token

/-! What is written as JSON is read back as it was, doubles apart. -/
namespace MultiCluster.Json

open Text

mutual

/-- Whether a value is written without loss: it has no doubles and no unreadable parts, its whole
numbers are within 64 bits, and its arrays and objects nest to no more than the depth. -/
def isPlain : Nat → Json → Bool
  | _, .null | _, .bool _ | _, .str _ => true
  | _, .int i => Word.least 64 ≤ i && i < Word.limit 64
  | depth + 1, .arr items => arePlainItems depth items
  | depth + 1, .obj members => arePlainMembers depth members
  | _, _ => false

/-- Whether all items are plain. -/
def arePlainItems : Nat → List Json → Bool
  | _, [] => true
  | depth, j :: rest => isPlain depth j && arePlainItems depth rest

/-- Whether all members are plain. -/
def arePlainMembers : Nat → List (String × Json) → Bool
  | _, [] => true
  | depth, (_, j) :: rest => isPlain depth j && arePlainMembers depth rest

end

private theorem skipSpace_cons {c : Char} (h : isSpace c = false) (cs : List Char) :
    skipSpace (c :: cs) = c :: cs := by
  simp [skipSpace, h]

private theorem isSpace_of_isDigit {c : Char} (h : c.isDigit = true) : isSpace c = false := by
  have hne (x : Char) (hx : x.isDigit = false) : c ≠ x := ne_of_isDigit h hx
  simp [isSpace, hne ' ' rfl, hne '\n' rfl, hne '\t' rfl, hne '\r' rfl]

private theorem render_head {depth : Nat} {j : Json} (h : isPlain depth j = true) :
    ∃ c cs, (render j).toList = c :: cs ∧ isSpace c = false ∧ c ≠ ']' := by
  cases j with
  | null => exact ⟨'n', ['u', 'l', 'l'], rfl, rfl, by decide⟩
  | bool b =>
    cases b with
    | true => exact ⟨'t', ['r', 'u', 'e'], rfl, rfl, by decide⟩
    | false => exact ⟨'f', ['a', 'l', 's', 'e'], rfl, rfl, by decide⟩
  | int i =>
    obtain ⟨c, cs, hc, rfl | hd⟩ := toString_int_head i
    · exact ⟨'-', cs, hc, rfl, by decide⟩
    · exact ⟨c, cs, hc, isSpace_of_isDigit hd, ne_of_isDigit hd rfl⟩
  | str s =>
    exact ⟨'"', s.toList.flatMap escapeChar ++ ['"'], by simp [render, quote], rfl, by decide⟩
  | arr items =>
    cases items with
    | nil => exact ⟨'[', [']'], rfl, rfl, by decide⟩
    | cons j rest =>
      exact ⟨'[', (render j).toList ++ (renderItems rest).toList, by simp [render], rfl, by decide⟩
  | obj members =>
    cases members with
    | nil => exact ⟨'\x7b', ['\x7d'], rfl, rfl, by decide⟩
    | cons m rest =>
      exact ⟨'\x7b', (quote m.1).toList ++ ':' :: ((render m.2).toList ++
        (renderMembers rest).toList), by simp [render], rfl, by decide⟩
  | real x => simp [isPlain] at h
  | unreadable => simp [isPlain] at h

private theorem closes_renderItems (items : List Json) (rest : List Char) :
    Closes ((renderItems items).toList ++ rest) := by
  cases items with
  | nil => exact .bracket rest
  | cons j items =>
    have ht : (renderItems (j :: items)).toList =
        ',' :: ((render j).toList ++ (renderItems items).toList) := by
      simp [renderItems]
    rw [ht]
    exact .comma _

private theorem closes_renderMembers (members : List (String × Json)) (rest : List Char) :
    Closes ((renderMembers members).toList ++ rest) := by
  cases members with
  | nil => exact .brace rest
  | cons m members =>
    have ht : (renderMembers (m :: members)).toList = ',' :: ((quote m.1).toList ++
        ':' :: ((render m.2).toList ++ (renderMembers members).toList)) := by
      simp [renderMembers]
    rw [ht]
    exact .comma _

private theorem length_lt_renderItems (items : List Json) :
    items.length < (renderItems items).toList.length := by
  induction items with
  | nil => exact Nat.one_pos
  | cons j items ih =>
    simp only [renderItems, String.toList_append, List.length_append, List.length_cons]
    have : (",".toList).length = 1 := rfl
    omega

private theorem length_lt_renderMembers (members : List (String × Json)) :
    members.length < (renderMembers members).toList.length := by
  induction members with
  | nil => exact Nat.one_pos
  | cons m members ih =>
    simp only [renderMembers, String.toList_append, List.length_append, List.length_cons]
    have : (",".toList).length = 1 := rfl
    omega

theorem arePlainItems_iff {depth : Nat} {items : List Json} :
    arePlainItems depth items = true ↔ ∀ j ∈ items, isPlain depth j = true := by
  induction items with
  | nil => simp [arePlainItems]
  | cons j items ih => simp [arePlainItems, ih]

theorem arePlainMembers_iff {depth : Nat} {members : List (String × Json)} :
    arePlainMembers depth members = true ↔ ∀ m ∈ members, isPlain depth m.2 = true := by
  induction members with
  | nil => simp [arePlainMembers]
  | cons m members ih => simp [arePlainMembers, ih]

/-- There may always be more room below. -/
theorem isPlain_mono {depth deeper : Nat} (hd : depth ≤ deeper) {j : Json}
    (h : isPlain depth j = true) : isPlain deeper j = true := by
  induction depth generalizing deeper j with
  | zero => cases j <;> simp_all [isPlain]
  | succ depth ih =>
    obtain ⟨deeper, rfl⟩ : ∃ k, deeper = k + 1 := ⟨deeper - 1, by omega⟩
    have hle : depth ≤ deeper := by omega
    cases j with
    | arr items =>
      rw [isPlain, arePlainItems_iff] at h ⊢
      exact fun x hx => ih hle (h x hx)
    | obj members =>
      rw [isPlain, arePlainMembers_iff] at h ⊢
      exact fun x hx => ih hle (h x hx)
    | _ => simp_all [isPlain]

theorem isReadable_of_isPlain {depth : Nat} {j : Json} (h : isPlain depth j = true) :
    j.isReadable = true := by
  induction depth generalizing j with
  | zero => cases j <;> simp_all [isPlain, isReadable]
  | succ depth ih =>
    cases j with
    | arr items =>
      rw [isPlain, arePlainItems_iff] at h
      exact areItemsReadable_iff.2 fun x hx => ih (h x hx)
    | obj members =>
      rw [isPlain, arePlainMembers_iff] at h
      exact areMembersReadable_iff.2 fun x hx => ih (h x hx)
    | _ => simp_all [isPlain, isReadable]

/-- A reader that reads a value as it is written, before anything that may come behind it. -/
def ReadsBack (item : Reader Json) (j : Json) : Prop :=
  ∀ rest, Closes rest → item ((render j).toList ++ rest) = some (j, rest)

private theorem readItems_render {item : Reader Json} {j : Json} {items : List Json} {fuel : Nat}
    (seen : List Json) (rest : List Char) (hf : items.length < fuel)
    (h : ∀ x ∈ j :: items, ReadsBack item x) :
    readItems item fuel seen ((render j).toList ++ ((renderItems items).toList ++ rest)) =
      some (seen.reverse ++ j :: items, rest) := by
  induction items generalizing j seen fuel with
  | nil =>
    obtain ⟨fuel, rfl⟩ : ∃ k, fuel = k + 1 := ⟨fuel - 1, by omega⟩
    rw [readItems, h j (by simp) _ (closes_renderItems [] rest)]
    simp [renderItems, skipSpace, isSpace]
  | cons k items ih =>
    obtain ⟨fuel, rfl⟩ : ∃ k, fuel = k + 1 := ⟨fuel - 1, by omega⟩
    have hl : items.length < fuel := by simpa using hf
    have hk := ih (j := k) (j :: seen) hl fun x hx => h x (List.mem_cons_of_mem j hx)
    rw [readItems, h j (by simp) _ (closes_renderItems (k :: items) rest)]
    simpa [renderItems, skipSpace, isSpace] using hk

-- A key and its colon are read before the value.
private theorem readMembers_quote (item : Reader Json) (fuel : Nat)
    (seen : List (String × Json)) (key : String) (cs : List Char) :
    readMembers item (fuel + 1) seen ((quote key).toList ++ ':' :: cs) = (item cs).bind fun r =>
      match skipSpace r.2 with
      | ',' :: rest => readMembers item fuel ((key, r.1) :: seen) rest
      | '}' :: rest => some (((key, r.1) :: seen).reverse, rest)
      | _ => none := by
  have hq : skipSpace ((quote key).toList ++ ':' :: cs) = (quote key).toList ++ ':' :: cs := by
    simp [quote, skipSpace, isSpace]
  rw [readMembers, hq, readString_quote]
  rfl

private theorem readMembers_render {item : Reader Json} {m : String × Json}
    {members : List (String × Json)} {fuel : Nat} (seen : List (String × Json)) (rest : List Char)
    (hf : members.length < fuel) (h : ∀ x ∈ m :: members, ReadsBack item x.2) :
    readMembers item fuel seen ((quote m.1).toList ++ ':' :: ((render m.2).toList ++
      ((renderMembers members).toList ++ rest))) = some (seen.reverse ++ m :: members, rest) := by
  induction members generalizing m seen fuel with
  | nil =>
    obtain ⟨fuel, rfl⟩ : ∃ k, fuel = k + 1 := ⟨fuel - 1, by omega⟩
    rw [readMembers_quote, h m (by simp) _ (closes_renderMembers [] rest)]
    simp [renderMembers, skipSpace, isSpace]
  | cons n members ih =>
    obtain ⟨fuel, rfl⟩ : ∃ k, fuel = k + 1 := ⟨fuel - 1, by omega⟩
    have hl : members.length < fuel := by simpa using hf
    have hn := ih (m := n) (m :: seen) hl fun x hx => h x (List.mem_cons_of_mem m hx)
    rw [readMembers_quote, h m (by simp) _ (closes_renderMembers (n :: members) rest)]
    simpa [renderMembers, skipSpace, isSpace] using hn

private theorem readValue_int (isLenient : Bool) (depth : Nat) {i : Int} {rest : List Char}
    (hr : Closes rest) (hi : Word.least 64 ≤ i ∧ i < Word.limit 64) :
    readValue isLenient depth ((toString i).toList ++ rest) = some (.int i, rest) := by
  have hn := readNumber_int hr hi
  obtain ⟨c, cs, hc, rfl | hd⟩ := toString_int_head i
  · rw [hc, List.cons_append] at hn ⊢
    simp [readValue, skipSpace, isSpace, hn]
  · have hne (x : Char) (hx : x.isDigit = false) : c ≠ x := ne_of_isDigit hd hx
    rw [hc, List.cons_append] at hn ⊢
    simp [readValue, skipSpace_cons (isSpace_of_isDigit hd), hn, hne 'n' rfl, hne 't' rfl,
      hne 'f' rfl, hne '"' rfl,
      hne '[' rfl, hne '\x7b' rfl]

-- A bracket is read, and what is inside it is not empty.
private theorem readValue_bracket {isLenient : Bool} {depth : Nat} {c : Char} {cs rest : List Char}
    {items : List Json} (hs : isSpace c = false) (hc : c ≠ ']')
    (h : readItems (readValue isLenient depth) ((c :: cs).length + 1) [] (c :: cs) =
      some (items, rest)) :
    readValue isLenient (depth + 1) ('[' :: c :: cs) = some (.arr items, rest) := by
  rw [List.length_cons] at h
  simp [readValue, skipSpace_cons hs, skipSpace_cons (c := '[') rfl, hc, h]

private theorem readValue_brace {isLenient : Bool} {depth : Nat} {c : Char} {cs rest : List Char}
    {members : List (String × Json)} (hs : isSpace c = false) (hc : c ≠ '\x7d')
    (h : readMembers (readValue isLenient depth) ((c :: cs).length + 1) [] (c :: cs) =
      some (members, rest)) :
    readValue isLenient (depth + 1) ('\x7b' :: c :: cs) = some (.obj members, rest) := by
  rw [List.length_cons] at h
  simp [readValue, skipSpace_cons hs, skipSpace_cons (c := '\x7b') rfl, hc, h]

private theorem readValue_arr {isLenient : Bool} {depth : Nat} {j : Json} {items : List Json}
    (rest : List Char) (hj : isPlain depth j = true)
    (h : ∀ x ∈ j :: items, ReadsBack (readValue isLenient depth) x) :
    readValue isLenient (depth + 1) ((render (.arr (j :: items))).toList ++ rest) =
      some (.arr (j :: items), rest) := by
  have ht : (render (.arr (j :: items))).toList ++ rest =
      '[' :: ((render j).toList ++ ((renderItems items).toList ++ rest)) := by
    simp [render]
  have hf : items.length <
      ((render j).toList ++ ((renderItems items).toList ++ rest)).length + 1 := by
    have := length_lt_renderItems items
    simp only [List.length_append]
    omega
  have hi := readItems_render [] rest hf h
  obtain ⟨c, cs, hc, hs, hb⟩ := render_head hj
  rw [ht]
  rw [hc, List.cons_append] at hi ⊢
  exact readValue_bracket hs hb hi

private theorem readValue_obj {isLenient : Bool} {depth : Nat} {m : String × Json}
    {members : List (String × Json)} (rest : List Char)
    (h : ∀ x ∈ m :: members, ReadsBack (readValue isLenient depth) x.2) :
    readValue isLenient (depth + 1) ((render (.obj (m :: members))).toList ++ rest) =
      some (.obj (m :: members), rest) := by
  obtain ⟨cs, hc⟩ : ∃ cs, (quote m.1).toList = '"' :: cs := ⟨_, by simp [quote]; rfl⟩
  have ht : (render (.obj (m :: members))).toList ++ rest = '\x7b' :: ((quote m.1).toList ++
      ':' :: ((render m.2).toList ++ ((renderMembers members).toList ++ rest))) := by
    simp [render]
  have hf : members.length < ((quote m.1).toList ++ ':' :: ((render m.2).toList ++
      ((renderMembers members).toList ++ rest))).length + 1 := by
    have := length_lt_renderMembers members
    simp only [List.length_append, List.length_cons]
    omega
  have hm := readMembers_render [] rest hf h
  rw [ht]
  rw [hc, List.cons_append] at hm ⊢
  exact readValue_brace rfl (by decide) hm

private theorem readValue_str (isLenient : Bool) (depth : Nat) (s : String) (rest : List Char) :
    readValue isLenient depth ((quote s).toList ++ rest) = some (.str s, rest) := by
  have hs := readString_quote s rest
  obtain ⟨cs, hc⟩ : ∃ cs, (quote s).toList = '"' :: cs := ⟨_, by simp [quote]; rfl⟩
  rw [hc, List.cons_append] at hs ⊢
  simp [readValue, skipSpace, isSpace, hs]

/-- A plain value is read as it is written. What is in an array or an object is plain one level
deeper, so the induction is on the depth. -/
theorem readsBack_of_isPlain (isLenient : Bool) {depth : Nat} {j : Json}
    (h : isPlain depth j = true) : ReadsBack (readValue isLenient depth) j := by
  induction depth using Nat.strongRecOn generalizing j with
  | ind depth ih =>
    intro rest hr
    cases j with
    | null => simp [readValue, render, skipSpace, isSpace, expect]
    | bool b => cases b <;> simp [readValue, render, skipSpace, isSpace, expect]
    | int i => exact readValue_int isLenient depth hr (by simpa [isPlain] using h)
    | str s => exact readValue_str isLenient depth s rest
    | arr items =>
      cases depth with
      | zero => simp [isPlain] at h
      | succ depth =>
        rw [isPlain, arePlainItems_iff] at h
        cases items with
        | nil => simp [readValue, render, skipSpace, isSpace]
        | cons j items =>
          exact readValue_arr rest (h j (by simp)) fun x hx => ih depth (by omega) (h x hx)
    | obj members =>
      cases depth with
      | zero => simp [isPlain] at h
      | succ depth =>
        rw [isPlain, arePlainMembers_iff] at h
        cases members with
        | nil => simp [readValue, render, skipSpace, isSpace]
        | cons m members => exact readValue_obj rest fun x hx => ih depth (by omega) (h x hx)
    | real x => simp [isPlain] at h
    | unreadable => simp [isPlain] at h

private theorem complete_readValue_render (isLenient : Bool) {j : Json}
    (h : isPlain maxDepth j = true) :
    complete (readValue isLenient maxDepth (render j).toList) = some j := by
  have hr := readsBack_of_isPlain isLenient h [] .nothing
  rw [List.append_nil] at hr
  rw [hr]
  rfl

/-- The text of a plain value holds this value. -/
theorem parse?_render {j : Json} (h : isPlain maxDepth j = true) : parse? (render j) = some j :=
  complete_readValue_render false h

theorem parseLenient?_render {j : Json} (h : isPlain maxDepth j = true) :
    parseLenient? (render j) = some j :=
  complete_readValue_render true h

end MultiCluster.Json
