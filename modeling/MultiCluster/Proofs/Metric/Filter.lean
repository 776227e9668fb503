import MultiCluster.Metric

/-! The name of a node inside an expression. An expression is read as characters and string
literals; the name is in the literals and in nothing else, whatever its characters are. -/
namespace MultiCluster

namespace Metric

/-- A part of an expression: a character outside literals, or what a literal stands for. -/
inductive Token where
  | mark (c : Char)
  | literal (value : List Char)
  deriving DecidableEq

namespace Token

def mark? : Token → Option Char
  | mark c => some c
  | literal _ => none

def literal? : Token → Option (List Char)
  | mark _ => none
  | literal value => some value

end Token

/-- Reads the parts of an expression. Within a literal, what has been read of it is given from the
end on; there a backslash takes the character after it as it is, and the first quote that is not
taken so is the end. A literal has to end. -/
def scanFrom : Option (List Char) → List Char → Option (List Token)
  | none, [] => some []
  | some _, [] => none
  | none, c :: rest =>
    if c = '"' then scanFrom (some []) rest else (scanFrom none rest).map (.mark c :: ·)
  | some seen, '\\' :: c :: rest => scanFrom (some (c :: seen)) rest
  | some seen, c :: rest =>
    if c = '"' then (scanFrom none rest).map (.literal seen.reverse :: ·)
    else scanFrom (some (c :: seen)) rest

/-- The parts of an expression. -/
def scan (expression : String) : Option (List Token) := scanFrom none expression.toList

/-- Puts a text in every place of a template; what has been put in is not looked at again. -/
def substitute (value : List Char) : List Char → List Char
  | '$' :: '1' :: rest => value ++ substitute value rest
  | c :: rest => c :: substitute value rest
  | [] => []

/-- The number of places in a template. -/
def places : List Char → Nat
  | '$' :: '1' :: rest => places rest + 1
  | _ :: rest => places rest
  | [] => 0

/-- Puts a backslash in front of every occurrence of a character. -/
def escape (c : Char) (cs : List Char) : List Char :=
  cs.flatMap fun d => if d = c then ['\\', d] else [d]

/-- A character that starts neither a place nor a literal. -/
def isPlain (c : Char) : Bool := c != '$' && c != '"'

section

variable {cs : List Char} (h : cs.all isPlain = true)
include h

private theorem ne_place_of_isPlain : '$' ∉ cs := by
  intro hm
  exact absurd (List.all_eq_true.1 h _ hm) (by decide)

theorem substitute_append (value rest : List Char) :
    substitute value (cs ++ rest) = cs ++ substitute value rest := by
  have hn := ne_place_of_isPlain h
  clear h
  induction cs with
  | nil => rfl
  | cons c cs ih =>
    rw [List.mem_cons, not_or] at hn
    rw [List.cons_append, substitute, ih hn.2, List.cons_append]
    rintro _ rfl
    exact absurd rfl hn.1

theorem places_append (rest : List Char) : places (cs ++ rest) = places rest := by
  have hn := ne_place_of_isPlain h
  clear h
  induction cs with
  | nil => rfl
  | cons c cs ih =>
    rw [List.mem_cons, not_or] at hn
    rw [List.cons_append, places, ih hn.2]
    rintro _ rfl
    exact absurd rfl hn.1

end

end Metric

namespace Formula

open MultiCluster.Metric

/-- The text of an expression with a place for every filter. -/
def template (f : Formula) : List Char := (f.text "$1").toList

example : (rounded (.times cpuUtilisation cpuTotal) "0.001").text "$1" =
    "round(node:node_cpu_utilisation:avg1m\x7b$1\x7d * node:node_num_cpu:sum\x7b$1\x7d, 0.001)" := by
  decide

/-- The names and units in an expression. -/
def words : Formula → List String
  | series name => [name]
  | times l r | minus l r => l.words ++ r.words
  | rounded value unit => value.words ++ [unit]

/-- Whether the places of the template are those of the series, and no literals are in it. -/
def IsPlain (f : Formula) : Prop := ∀ word ∈ f.words, word.toList.all isPlain = true

instance (f : Formula) : Decidable f.IsPlain :=
  inferInstanceAs (Decidable (∀ word ∈ f.words, word.toList.all isPlain = true))

theorem isPlain_of_mem_catalogue : ∀ entry ∈ catalogue, entry.2.IsPlain := by
  decide +kernel

/-- To fill the places of the template is to give the filter to every series. -/
theorem substitute_template {f : Formula} (h : f.IsPlain) (filter : String)
    (rest : List Char) : substitute filter.toList (f.template ++ rest) =
      (f.text filter).toList ++ substitute filter.toList rest := by
  induction f generalizing rest with
  | series name =>
    have hn := h name (List.mem_singleton_self _)
    simp only [template, text, String.toList_append, List.append_assoc]
    rw [substitute_append hn]
    rfl
  | times l r ihl ihr | minus l r ihl ihr =>
    have hl : l.IsPlain := fun word hw => h word (List.mem_append_left _ hw)
    have hr : r.IsPlain := fun word hw => h word (List.mem_append_right _ hw)
    simp only [template, text, String.toList_append, List.append_assoc] at ihl ihr ⊢
    rw [ihl hl, substitute_append (by decide), ihr hr]
  | rounded value unit ih =>
    have hv : value.IsPlain := fun word hw => h word (List.mem_append_left _ hw)
    have hu := h unit (List.mem_append_right _ (List.mem_singleton_self _))
    simp only [template, text, String.toList_append, List.append_assoc] at ih ⊢
    rw [substitute_append (by decide), ih hv, substitute_append (by decide),
      substitute_append hu, substitute_append (by decide)]

theorem places_template {f : Formula} (h : f.IsPlain) (rest : List Char) :
    places rest < places (f.template ++ rest) := by
  induction f generalizing rest with
  | series name =>
    have hn := h name (List.mem_singleton_self _)
    simp only [template, text, String.toList_append, List.append_assoc]
    rw [places_append hn]
    exact Nat.lt_succ_self _
  | times l r ihl ihr | minus l r ihl ihr =>
    have hl : l.IsPlain := fun word hw => h word (List.mem_append_left _ hw)
    have hr : r.IsPlain := fun word hw => h word (List.mem_append_right _ hw)
    simp only [template, text, String.toList_append, List.append_assoc] at ihl ihr ⊢
    refine Nat.lt_trans (ihr hr rest) (Nat.lt_of_le_of_lt (Nat.le_of_eq ?_) (ihl hl _))
    exact (places_append (by decide) _).symm
  | rounded value unit ih =>
    have hv : value.IsPlain := fun word hw => h word (List.mem_append_left _ hw)
    have hu := h unit (List.mem_append_right _ (List.mem_singleton_self _))
    simp only [template, text, String.toList_append, List.append_assoc] at ih ⊢
    rw [places_append (by decide)]
    refine Nat.lt_of_le_of_lt (Nat.le_of_eq ?_) (ih hv _)
    rw [places_append (by decide), places_append hu, places_append (by decide)]

theorem quote_not_mem_template {f : Formula} (h : f.IsPlain) : '"' ∉ f.template := by
  have plain (word : String) (hw : word.toList.all isPlain = true) : '"' ∉ word.toList := by
    intro hm
    exact absurd (List.all_eq_true.1 hw _ hm) (by decide)
  induction f with
  | series name =>
    have hn := plain name (h name (List.mem_singleton_self _))
    simp only [template, text, String.toList_append, List.mem_append, not_or]
    exact ⟨⟨⟨hn, by decide⟩, by decide⟩, by decide⟩
  | times l r ihl ihr | minus l r ihl ihr =>
    have hl := ihl fun word hw => h word (List.mem_append_left _ hw)
    have hr := ihr fun word hw => h word (List.mem_append_right _ hw)
    simp only [template, text, String.toList_append, List.mem_append, not_or] at hl hr ⊢
    exact ⟨⟨hl, by decide⟩, hr⟩
  | rounded value unit ih =>
    have hv := ih fun word hw => h word (List.mem_append_left _ hw)
    have hu := plain unit (h unit (List.mem_append_right _ (List.mem_singleton_self _)))
    simp only [template, text, String.toList_append, List.mem_append, not_or] at hv ⊢
    exact ⟨⟨⟨⟨by decide, hv⟩, by decide⟩, hu⟩, by decide⟩

end Formula

namespace Metric

/-- A name is read back from the literal in which it stands. -/
theorem scanFrom_literal (cs seen rest : List Char) :
    scanFrom (some seen) (cs.flatMap literalChar ++ '"' :: rest) =
      (scanFrom none rest).map (.literal (seen.reverse ++ cs) :: ·) := by
  induction cs generalizing seen with
  | nil => simp [scanFrom]
  | cons c cs ih =>
    have hc : scanFrom (some seen) (literalChar c ++ (cs.flatMap literalChar ++ '"' :: rest)) =
        scanFrom (some (c :: seen)) (cs.flatMap literalChar ++ '"' :: rest) := by
      by_cases h : c = '\\' ∨ c = '"'
      · rw [literalChar, if_pos h]
        rfl
      · rw [not_or] at h
        rw [literalChar, if_neg (not_or.2 h), List.singleton_append, scanFrom, if_neg h.2]
        rintro d ds rfl
        exact absurd rfl h.1
    rw [List.flatMap_cons, List.append_assoc, hc, ih, List.reverse_cons, List.append_assoc,
      List.singleton_append]

/-- Backslashes are escaped first and quotes after that, which escapes no character twice. -/
theorem escape_escape (cs : List Char) :
    escape '"' (escape '\\' cs) = cs.flatMap literalChar := by
  rw [escape, escape, List.flatMap_assoc]
  congr 1
  funext c
  by_cases hs : c = '\\'
  · subst hs
    rfl
  · by_cases hq : c = '"'
    · subst hq
      rfl
    · simp [literalChar, hs, hq]

theorem toList_filter (node : String) : (filter (some node)).toList =
    "node=".toList ++ '"' :: (node.toList.flatMap literalChar ++ ['"']) := by
  simp only [filter, String.toList_append, String.toList_ofList, List.append_assoc]
  rfl

theorem scanFrom_append {cs : List Char} (h : '"' ∉ cs) (rest : List Char) :
    scanFrom none (cs ++ rest) = (scanFrom none rest).map (cs.map .mark ++ ·) := by
  induction cs with
  | nil => simp
  | cons c cs ih =>
    rw [List.mem_cons, not_or] at h
    rw [List.cons_append, scanFrom, if_neg (Ne.symm h.1), ih h.2, Option.map_map]
    rfl

private theorem scanFrom_filter (node : String) (rest : List Char) :
    scanFrom none ((filter (some node)).toList ++ rest) = (scanFrom none rest).map fun tokens =>
      "node=".toList.map .mark ++ .literal node.toList :: tokens := by
  rw [toList_filter, List.append_assoc, scanFrom_append (by decide), List.cons_append,
    List.append_assoc, List.singleton_append, scanFrom, if_pos rfl, scanFrom_literal,
    Option.map_map]
  rfl

/-- A template that is filled for a node is read as the template with a literal in every place, and
the literal stands for the node. -/
theorem scanFrom_substitute (node : String) {cs : List Char} (h : '"' ∉ cs) : ∃ tokens,
    scanFrom none (substitute (filter (some node)).toList cs) = some tokens ∧
      tokens.filterMap Token.literal? = List.replicate (places cs) node.toList ∧
      tokens.filterMap Token.mark? = substitute "node=".toList cs := by
  induction cs using substitute.induct with
  | case1 rest ih =>
    obtain ⟨tokens, ht, hl, hm⟩ := ih fun hr => h (by simp [hr])
    refine ⟨_, by rw [substitute, scanFrom_filter, ht, Option.map_some], ?_, ?_⟩
    · simp [List.filterMap_cons, Token.literal?, hl, places, List.replicate_succ]
    · rw [substitute, ← hm]
      simp [List.filterMap_cons, Token.mark?]
  | case2 c rest hne ih =>
    rw [List.mem_cons, not_or] at h
    obtain ⟨tokens, ht, hl, hm⟩ := ih h.2
    refine ⟨.mark c :: tokens, ?_, ?_, ?_⟩
    · rw [substitute, scanFrom, if_neg (Ne.symm h.1), ht, Option.map_some]
      exact hne
    · rw [places]
      · simpa [List.filterMap_cons, Token.literal?] using hl
      · exact hne
    · rw [substitute]
      · simpa [Token.mark?] using hm
      · exact hne
  | case3 => exact ⟨[], rfl, rfl, rfl⟩

/-- What the expression of a metric is for a node. -/
structure IsFiltered (f : Formula) (node expression : String) : Prop where
  /-- Every place of the template, of which there is one at least, has the filter. -/
  filled : expression.toList = substitute
    ("node=".toList ++ '"' :: (escape '"' (escape '\\' node.toList) ++ ['"'])) f.template
  restricted : 0 < places f.template
  /-- There is one literal for each place, which stands for the node, and outside the literals all
  is as in the template. -/
  scanned : ∃ tokens, scan expression = some tokens ∧
    tokens.filterMap Token.literal? = List.replicate (places f.template) node.toList ∧
    tokens.filterMap Token.mark? = substitute "node=".toList f.template

theorem isFiltered_text {f : Formula} (h : f.IsPlain) (node : String) :
    IsFiltered f node (f.text (filter (some node))) := by
  have ht : (f.text (filter (some node))).toList =
      substitute (filter (some node)).toList f.template := by
    have hf := Formula.substitute_template h (filter (some node)) []
    rwa [List.append_nil, substitute, List.append_nil, eq_comm] at hf
  constructor
  case filled => rw [ht, toList_filter, escape_escape]
  case restricted =>
    have hp := Formula.places_template h []
    rwa [List.append_nil] at hp
  case scanned =>
    rw [scan, ht]
    exact scanFrom_substitute node (Formula.quote_not_mem_template h)

theorem eq_of_isFiltered {f : Formula} {node other expression : String}
    (h : IsFiltered f node expression) (ho : IsFiltered f other expression) : node = other := by
  obtain ⟨tokens, ht, hl, -⟩ := h.scanned
  obtain ⟨tokens', ht', hl', -⟩ := ho.scanned
  obtain rfl := Option.some.inj (ht.symm.trans ht')
  have hr := hl.symm.trans hl'
  rw [List.replicate_inj] at hr
  exact String.toList_inj.1 (hr.2.resolve_left (Nat.ne_of_gt h.restricted))

/-- What restricts an expression to a node: its name as a literal, in which backslashes are escaped
first and quotes after that. Without a node there is nothing. -/
def restriction : Option String → List Char
  | some node => "node=".toList ++ '"' :: (escape '"' (escape '\\' node.toList) ++ ['"'])
  | none => []

/-- The template that the catalogue has under a name, with the restriction in every place. -/
def filled? (name : String) (node : Option String) : Option String :=
  (catalogue.lookup name).map fun f => String.ofList (substitute (restriction node) f.template)

theorem isPlain_of_lookup {name : String} {f : Formula} (h : catalogue.lookup name = some f) :
    f.IsPlain := by
  obtain ⟨front, back, hc, -⟩ := List.lookup_eq_some_iff.1 h
  exact Formula.isPlain_of_mem_catalogue (name, f) (by simp [hc])

theorem toList_filter_eq (node : Option String) : (filter node).toList = restriction node := by
  cases node with
  | none => rfl
  | some node => rw [toList_filter, restriction, escape_escape]

/-- The expression of a metric is its template, filled. -/
theorem expression?_eq_filled? (name : String) (node : Option String) :
    expression? name node = filled? name node := by
  rw [expression?, filled?]
  cases h : catalogue.lookup name with
  | none => rfl
  | some f =>
    have hf := Formula.substitute_template (isPlain_of_lookup h) (filter node) []
    rw [List.append_nil, substitute, List.append_nil, toList_filter_eq] at hf
    rw [Option.map_some, Option.map_some, hf, String.ofList_toList]

example : filled? "node_load5" none = some "node:load5:ratio\x7b\x7d" := by decide

/-- Whatever a node is called, its name is what the literals of the expression stand for, and there
is nothing else of it in the expression; no two nodes have one expression. -/
theorem expression?_filters {name : String} {f : Formula} (h : catalogue.lookup name = some f)
    (node : String) : ∃ e, expression? name (some node) = some e ∧ IsFiltered f node e ∧
      ∀ other, expression? name (some other) = some e → other = node := by
  have hp := isPlain_of_lookup h
  have he (node : String) : expression? name (some node) = some (f.text (filter (some node))) := by
    rw [expression?, h, Option.map_some]
  refine ⟨_, he node, isFiltered_text hp node, fun other ho => ?_⟩
  rw [he other, Option.some.injEq] at ho
  exact eq_of_isFiltered (ho ▸ isFiltered_text hp other) (isFiltered_text hp node)

/-- A name that is made to close its literal and to end in a backslash. -/
theorem expression?_filters_of_marks :
    let f : Formula := .rounded (.times cpuUtilisation cpuTotal) "0.001"
    let node := "a\"\x7d or up\x7bb=\"$1\\"
    catalogue.lookup "node_cpu_usage" = some f ∧
      ∃ e, expression? "node_cpu_usage" (some node) = some e ∧ IsFiltered f node e ∧
        ∀ other, expression? "node_cpu_usage" (some other) = some e → other = node := by
  intro f node
  have h : catalogue.lookup "node_cpu_usage" = some f := rfl
  exact ⟨h, expression?_filters h node⟩

end Metric

end MultiCluster
