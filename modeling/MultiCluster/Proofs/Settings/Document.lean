import MultiCluster.Proofs.Json.Record
import MultiCluster.Proofs.Settings.Field
import MultiCluster.Proofs.Toml.Distinct
import MultiCluster.Settings.Load

/-! When a settings file is read, and which values it gives. -/
namespace MultiCluster.Settings

open Json (given Decoder)
open Json.Decode (Fields OrDefault IsRecord record isRecord_obj_iff isRecord_arr_iff)

/-- The place of a field in its section. -/
def Field.place (f : Field) : Nat := f.home.fields.idxOf f

/-- The place of a section among all. -/
def Section.place (x : Section) : Nat := Section.all.idxOf x

/-- What there is for a field in a section: the value with its key in a table, or the one at its
place in a list. -/
def Field.within? (f : Field) : Json → Option Json
  | .obj members => members.lookup f.key
  | .arr items => items[f.place]?
  | _ => none

/-- What there is for a field in a document. -/
def Field.find? (f : Field) (members : List (String × Json)) : Option Json :=
  (members.lookup f.home.name).bind f.within?

/-- A section is a table or a list. -/
def IsSection (j : Json) : Prop := (∃ members, j = .obj members) ∨ ∃ items, j = .arr items

/-- The sections that a document has are tables or lists. -/
def HasSections (members : List (String × Json)) : Prop :=
  ∀ (x : Section) (j : Json), members.lookup x.name = some j → IsSection j

/-- What a value is read as. A scope is named by a text or by the key of an empty table or list. -/
def Kind.IsRead : (k : Kind) → Json → k.Value → Prop
  | text, j, s => j = .str s
  | optionalText, j, s => ∃ t, j = .str t ∧ s = some t
  | number width, j, (n : Nat) => j = .int n ∧ n < Word.limit width
  | flag, j, b => j = .bool b
  | scope, j, s => j = .str (Scope.text s) ∨ j = .obj [(Scope.text s, .obj [])] ∨
      j = .obj [(Scope.text s, .arr [])]

/-- How a value is read. -/
def Kind.decoder : (k : Kind) → Decoder k.Value
  | text => Json.Decode.text
  | optionalText => Json.Decode.nullable Json.Decode.text
  | number width => Json.Decode.nat width
  | flag => Json.Decode.bool
  | scope => scopeOf

theorem lookup_scope {name : String} {scope : Scope} :
    [(Scope.all.text, Scope.all), (Scope.firstPage.text, Scope.firstPage)].lookup name =
      some scope ↔ name = scope.text := by
  simp only [List.lookup_cons, List.lookup_nil]
  by_cases all : name = Scope.all.text
  · subst all
    cases scope <;> simp [Scope.text]
  by_cases first : name = Scope.firstPage.text
  · subst first
    cases scope <;> simp [Scope.text]
  · rw [beq_false_of_ne all, beq_false_of_ne first]
    cases scope <;> simp [all, first]

theorem scopeOf_eq_ok_iff {j : Json} {scope : Scope} :
    scopeOf j = .ok scope ↔ j = .str scope.text ∨ j = .obj [(scope.text, .null)] := by
  rw [scopeOf, Json.Decode.named_eq_ok_iff]
  simp only [lookup_scope, exists_eq_left]

theorem scopeOf_plainName_eq_ok_iff {j : Json} (hj : Toml.IsValue j) {scope : Scope} :
    scopeOf (plainName j) = .ok scope ↔ j = .str scope.text ∨ j = .obj [(scope.text, .obj [])] ∨
      j = .obj [(scope.text, .arr [])] := by
  rw [scopeOf_eq_ok_iff]
  unfold plainName
  split
  · simp
  · simp
  · next table list =>
    constructor
    · rintro (rfl | rfl)
      · exact .inl rfl
      · -- nothing in a document is null
        cases hj with
        | obj _ values => nomatch values _ List.mem_cons_self
    · rintro (rfl | rfl | rfl)
      · exact .inl rfl
      · exact absurd rfl (table _)
      · exact absurd rfl (list _)

/-- A value of a document is read as its kind says. -/
theorem Field.decoder_plainValue_eq_ok_iff {f : Field} {j : Json} (hj : Toml.IsValue j)
    {v : f.Value} : f.kind.decoder (plainValue f.key j) = .ok v ↔ f.kind.IsRead j v := by
  have plain (h : f.key ≠ "scope") : plainValue f.key j = j := if_neg h
  cases f with
  | host | level =>
    rw [plain (by decide)]
    exact Json.Decode.text_eq_ok_iff
  | kubeconfig | context | directory =>
    rw [plain (by decide)]
    refine (Json.Decode.nullable_eq_ok_iff fun _ _ => Json.Decode.text_eq_ok_iff).trans ?_
    constructor
    · rintro (_ | ⟨-, rfl⟩)
      · cases hj
      · exact ⟨_, rfl, rfl⟩
    · rintro ⟨t, rfl, rfl⟩
      exact .present nofun rfl
  | enabled | json =>
    rw [plain (by decide)]
    exact Json.Decode.bool_eq_ok_iff
  | scope => exact scopeOf_plainName_eq_ok_iff hj
  | _ =>
    rw [plain (by decide)]
    exact Json.Decode.nat_eq_ok_iff

/-- What there is for a field in a value is a value. -/
theorem isValue_within? {f : Field} {j value : Json} (hj : Toml.IsValue j)
    (h : f.within? j = some value) : Toml.IsValue value := by
  cases hj with
  | obj distinct values => exact Toml.IsValue.lookup (.obj distinct values) h
  | arr items => exact items value (List.mem_of_getElem? h)
  | _ => cases h

theorem lookup_sections (x : Section) :
    sections.lookup x.name = some (x.fields.map Field.key) := by
  cases x <;> rfl

theorem map_place (x : Section) : x.fields.map Field.place = List.range x.fields.length := by
  cases x <;> rfl

theorem getElem?_fields {x : Section} {f : Field} (h : f ∈ x.fields) :
    x.fields[f.place]? = some f := by
  rw [Field.place, Section.mem_fields_iff.1 h]
  exact List.getElem?_idxOf h

/-- A section gives the fields of a record: those of a table by key, those of a list by place. -/
theorem isRecord_plainSection {x : Section} {j : Json} (hj : Toml.IsValue j)
    {values : List (Option Json)} :
    IsRecord (x.fields.map Field.key) (plainSection x.name j) values ↔ IsSection j ∧
      x.fields.map (fun f => (f.within? j).map (plainValue f.key)) = values := by
  cases hj with
  | @obj members distinct =>
    have once (key : String) : (given key members).length ≤ 1 := Json.length_given_le distinct key
    rw [plainSection, isRecord_obj_iff, List.map_map]
    simp only [Json.given_mapped, List.length_map, once, implies_true, true_and,
      Function.comp_def, Json.lookup_mapped, Field.within?]
    exact (and_iff_right (.inl ⟨members, rfl⟩)).symm
  | @arr items =>
    have short : (List.zipWith plainValue (x.fields.map Field.key) items).length ≤
        x.fields.length := by
      rw [List.length_zipWith, List.length_map]
      exact Nat.min_le_left ..
    have placed (f : Field) (hf : f ∈ x.fields) :
        (List.zipWith plainValue (x.fields.map Field.key) items)[f.place]? =
          (items[f.place]?).map (plainValue f.key) := by
      rw [List.getElem?_zipWith, List.getElem?_map, getElem?_fields hf]
      cases items[f.place]? <;> rfl
    rw [plainSection, lookup_sections, Option.getD_some, isRecord_arr_iff, List.length_map,
      ← map_place, List.map_map]
    simp only [Function.comp_def, Field.within?]
    rw [List.map_congr_left placed]
    exact and_congr_left' (iff_of_true short (.inr ⟨items, rfl⟩))
  | _ =>
    constructor
    · rintro ⟨⟩
    · rintro ⟨⟨_, ⟨⟩⟩ | ⟨_, ⟨⟩⟩, -⟩

theorem Section.record_eq_ok_iff (x : Section) {α : Type} {expected : String}
    {build : Fields → Except Json.Fault α} {a : α} {s : Settings}
    (h : ∀ F : Fields, build F = .ok a ↔
      ∀ f ∈ x.fields, F.withDefault f.place f.kind.decoder f.default = .ok (s.get f))
    {j : Json} (hj : Toml.IsValue j) :
    record expected ((x.fields.map Field.key).map ([·])) build (plainSection x.name j) = .ok a ↔
      IsSection j ∧
        ∀ f ∈ x.fields, OrDefault f.kind.IsRead f.default (f.within? j) (s.get f) := by
  have built (F : Fields) (values : List (Option Json)) (hv : ∀ i, F.value? i = values[i]?.join) :
      build F = .ok a ↔ ∀ f ∈ x.fields, OrDefault (fun j v => f.kind.decoder j = .ok v) f.default
        values[f.place]?.join (s.get f) := by
    rw [h]
    simp only [← hv, Json.Decode.withDefault_eq_ok_iff (fun _ _ => Iff.rfl)]
  rw [Json.Decode.record_eq_ok_iff _ (fun F values _ hv => built F values hv)]
  simp only [isRecord_plainSection hj, and_assoc, exists_and_left, exists_eq_left']
  apply and_congr_right'
  apply forall₂_congr
  intro f hf
  rw [List.getElem?_map, getElem?_fields hf, Option.map_some, Option.join_some]
  cases hw : f.within? j with
  | none => exact Iff.rfl
  | some value => exact f.decoder_plainValue_eq_ok_iff (isValue_within? hj hw)

theorem Section.forall_iff {P : Section → Prop} : (∀ x, P x) ↔ P server ∧ P registry ∧ P clusters ∧
    P reconciler ∧ P monitoring ∧ P logging := by
  constructor
  · intro h
    exact ⟨h _, h _, h _, h _, h _, h _⟩
  · rintro ⟨_, _, _, _, _, _⟩ x
    cases x <;> assumption

/-- What a section that may be missing is read as. -/
def Section.IsHeld (part : Option Json) (s : Settings) : Section → Prop
  | server => OrDefault (fun j a => listener j = .ok a) {} part s.server
  | registry => OrDefault (fun j a => registryAccess j = .ok a) {} part s.registry
  | clusters => OrDefault (fun j a => clusterLimits j = .ok a) {} part s.clusters
  | reconciler => OrDefault (fun j a => sweeps j = .ok a) {} part s.reconciler
  | monitoring => OrDefault (fun j a => monitoringLimits j = .ok a) {} part s.monitoring
  | logging => OrDefault (fun j a => log j = .ok a) {} part s.logging

theorem Section.isHeld_none (x : Section) {s : Settings} :
    x.IsHeld none s ↔ ∀ f ∈ x.fields, s.get f = f.default := by
  obtain ⟨⟨_, _⟩, ⟨_, _, _⟩, ⟨_, _, _⟩, ⟨_, _, _, _⟩, ⟨_⟩, ⟨_, _, _⟩⟩ := s
  cases x <;> simp only [IsHeld, OrDefault, ListenerSettings.mk.injEq, RegistrySettings.mk.injEq,
    ClusterSettings.mk.injEq, SweepSettings.mk.injEq, MonitoringSettings.mk.injEq,
    LoggingSettings.mk.injEq, fields, List.forall_mem_cons, List.not_mem_nil, false_imp_iff,
    implies_true, and_true] <;> exact Iff.rfl

/-- The sections are read alike: the values of a section are those of its fields. -/
theorem Section.isHeld_some (x : Section) {j : Json} (hj : Toml.IsValue j) {s : Settings} :
    x.IsHeld (some (plainSection x.name j)) s ↔ IsSection j ∧
      ∀ f ∈ x.fields, OrDefault f.kind.IsRead f.default (f.within? j) (s.get f) := by
  obtain ⟨⟨_, _⟩, ⟨_, _, _⟩, ⟨_, _, _⟩, ⟨_, _, _, _⟩, ⟨_⟩, ⟨_, _, _⟩⟩ := s
  refine match x with
    | server => record_eq_ok_iff server (fun F => ?_) hj
    | registry => record_eq_ok_iff registry (fun F => ?_) hj
    | clusters => record_eq_ok_iff clusters (fun F => ?_) hj
    | reconciler => record_eq_ok_iff reconciler (fun F => ?_) hj
    | monitoring => record_eq_ok_iff monitoring (fun F => ?_) hj
    | logging => record_eq_ok_iff logging (fun F => ?_) hj
  all_goals
    simp only [bind_eq_ok_iff, pure, Except.pure, Except.ok.injEq, ListenerSettings.mk.injEq,
      RegistrySettings.mk.injEq, ClusterSettings.mk.injEq, SweepSettings.mk.injEq,
      MonitoringSettings.mk.injEq, LoggingSettings.mk.injEq, existsAndEq, and_true, fields,
      List.forall_mem_cons, List.not_mem_nil, false_imp_iff, implies_true]
    exact Iff.rfl

/-- The part of a document that is a section gives the values of the fields of the section. -/
theorem Section.isHeld_iff (x : Section) {members : List (String × Json)}
    (hm : Toml.IsValue (.obj members)) {s : Settings} :
    x.IsHeld ((members.lookup x.name).map (plainSection x.name)) s ↔
      (∀ j, members.lookup x.name = some j → IsSection j) ∧
        ∀ f ∈ x.fields, OrDefault f.kind.IsRead f.default (f.find? members) (s.get f) := by
  have found : (∀ f ∈ x.fields, OrDefault f.kind.IsRead f.default (f.find? members) (s.get f)) ↔
      ∀ f ∈ x.fields, OrDefault f.kind.IsRead f.default
        ((members.lookup x.name).bind f.within?) (s.get f) :=
    forall₂_congr fun f hf => by rw [Field.find?, mem_fields_iff.1 hf]
  rw [found]
  cases hl : members.lookup x.name with
  | none => simpa [OrDefault] using x.isHeld_none
  | some j => simpa using x.isHeld_some (hm.lookup hl)

/-- Settings are read from a document when its sections are sections and a value is read for every
field that it gives. -/
theorem ofJson_eq_ok_iff {members : List (String × Json)} (hm : Toml.IsValue (.obj members))
    {s : Settings} :
    ofJson (.obj (members.map fun m => (m.1, plainSection m.1 m.2))) = .ok s ↔
      HasSections members ∧
        ∀ f : Field, OrDefault f.kind.IsRead f.default (f.find? members) (s.get f) := by
  have built (F : Fields) (parts : List (Option Json)) (hv : ∀ i, F.value? i = parts[i]?.join) :
      (do
        return {
          server := ← F.withDefault 0 listener {}
          registry := ← F.withDefault 1 registryAccess {}
          clusters := ← F.withDefault 2 clusterLimits {}
          reconciler := ← F.withDefault 3 sweeps {}
          monitoring := ← F.withDefault 4 monitoringLimits {}
          logging := ← F.withDefault 5 log {} } : Except Json.Fault Settings) = .ok s ↔
        ∀ x : Section, x.IsHeld parts[x.place]?.join s := by
    obtain ⟨_, _, _, _, _, _⟩ := s
    simp only [bind_eq_ok_iff, pure, Except.pure, Except.ok.injEq, Settings.mk.injEq, existsAndEq,
      and_true, Json.Decode.withDefault_eq_ok_iff (fun _ _ => Iff.rfl), hv, Section.forall_iff]
    exact Iff.rfl
  have once (key : String) : (given key members).length ≤ 1 := by
    cases hm with
    | obj distinct => exact Json.length_given_le distinct key
  have part (x : Section) : (Section.all.map fun x => (members.lookup x.name).map
      (plainSection x.name))[x.place]?.join =
        (members.lookup x.name).map (plainSection x.name) := by
    rw [List.getElem?_map, Section.place, List.getElem?_idxOf x.mem_all]
    rfl
  refine (Json.Decode.record_eq_ok_iff (Section.all.map Section.name)
    (fun F parts _ hv => built F parts hv) _).trans ?_
  simp only [isRecord_obj_iff, Json.given_mapped, List.length_map, once, implies_true, true_and,
    List.map_map, exists_eq_left', Json.lookup_mapped, Function.comp_def, part,
    Section.isHeld_iff _ hm]
  constructor
  · intro held
    exact ⟨fun x => (held x).1, fun f => (held f.home).2 f (Section.mem_fields_iff.2 rfl)⟩
  · rintro ⟨sections, values⟩ x
    exact ⟨sections x, fun f _ => values f⟩

/-- A value that may be missing is read, or the default stands for it. -/
theorem orDefault_iff {f : Field} {j : Option Json} {v : f.Value} :
    OrDefault f.kind.IsRead f.default j v ↔
      ∃ given, Option.Rel f.kind.IsRead j given ∧ v = given.getD f.default := by
  cases j with
  | none =>
    constructor
    · intro h
      exact ⟨none, .none, h⟩
    · rintro ⟨_, ⟨⟩, h⟩
      exact h
  | some j =>
    constructor
    · intro h
      exact ⟨some v, .some h, rfl⟩
    · rintro ⟨_, ⟨h⟩, rfl⟩
      exact h

/-- The values that a settings file gives in a dialect. -/
inductive File.Gives (dialect : Toml.Dialect) : File → Layer → Prop where
  | absent : Gives dialect .absent fun _ => none
  | content {text : String} {members : List (String × Json)} {values : Layer} :
    dialect.read text = some (.obj members) → HasSections members →
      (∀ f, Option.Rel f.kind.IsRead (f.find? members) (values f)) →
        Gives dialect (.content text) values

variable {dialect : Toml.Dialect}

theorem readText_eq_ok_iff {text : String} {s : Settings} : readText dialect.read text = .ok s ↔
    ∃ members, dialect.read text = some (.obj members) ∧ HasSections members ∧
      ∀ f : Field, OrDefault f.kind.IsRead f.default (f.find? members) (s.get f) := by
  have mapped {ε ε' α : Type} (g : ε → ε') (x : Except ε α) (a : α) :
      x.mapError g = .ok a ↔ x = .ok a := by
    cases x <;> simp [Except.mapError]
  unfold readText
  split
  · next h => simp [h]
  · next members h =>
    rw [mapped, ofJson_eq_ok_iff (dialect.isValue h)]
    simp [h]
  · next j other h =>
    simpa [h] using fun members hm => absurd hm (other members)

/-- The settings of a file are the values that it gives, and defaults. -/
theorem File.settings_eq_ok_iff {file : File} {s : Settings} :
    file.settings dialect.read = .ok s ↔
      ∃ values, file.Gives dialect values ∧ ∀ f, s.get f = (values f).getD f.default := by
  cases file with
  | absent =>
    constructor
    · rintro ⟨⟩
      exact ⟨_, .absent, fun _ => rfl⟩
    · rintro ⟨_, ⟨⟩, h⟩
      rw [settings, eq_of_get h]
  | unreadable path reason =>
    constructor
    · rintro ⟨⟩
    · rintro ⟨_, ⟨⟩, -⟩
  | content text =>
    rw [settings, readText_eq_ok_iff]
    simp only [orDefault_iff]
    constructor
    · rintro ⟨members, parsed, shaped, h⟩
      choose values read given using h
      exact ⟨values, .content parsed shaped read, given⟩
    · rintro ⟨values, gives, given⟩
      cases gives with
      | content parsed shaped read =>
        exact ⟨_, parsed, shaped, fun f => ⟨values f, read f, given f⟩⟩

theorem readText_error {parse : String → Option Json} {text : String} {fault : Fault}
    (h : readText parse text = .error fault) : ∃ reason, fault = .malformed reason := by
  unfold readText at h
  split at h
  · cases h
    exact ⟨_, rfl⟩
  · next members _ =>
    cases hr : ofJson (.obj (members.map fun m => (m.1, plainSection m.1 m.2))) with
    | ok s =>
      rw [hr] at h
      cases h
    | error e =>
      rw [hr] at h
      cases h
      exact ⟨_, rfl⟩
  · cases h
    exact ⟨_, rfl⟩

end MultiCluster.Settings
