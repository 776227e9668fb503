import MultiCluster.Proofs.Settings.Document
import MultiCluster.Proofs.Settings.Environment

/-! Which settings are loaded: for each field the value of the environment, or else that of the file,
or else the default, if the whole makes sense; and what is reported where nothing is loaded. -/
namespace MultiCluster

theorem isFirst_of_find? {α : Type} {p : α → Bool} {a : α} {as : List α} (h : as.find? p = some a) :
    IsFirst (p · = true) a as := by
  obtain ⟨ha, before, behind, rfl, none⟩ := List.find?_eq_some_iff_append.1 h
  exact ⟨ha, before, behind, rfl, by simpa using none⟩

namespace Settings

/-- Whether a value is the number zero. -/
def Kind.isZero : (k : Kind) → k.Value → Bool
  | number _, (n : Nat) => n == 0
  | _, _ => false

namespace Field

/-- The fields that may not be zero, in the order in which they are looked at. -/
def needed : List Field :=
  [port, interval, pageSize, registryTimeout, connectTimeout, clusterTimeout, monitoringTimeout]

/-- What is reported of a field that is zero. -/
def complaint : Field → String
  | port => "Port cannot be 0"
  | interval => "Reconcile interval must be at least one second"
  | pageSize => "Reconcile page size cannot be 0"
  | f => s!"{f.home.name}.{f.key} cannot be 0"

end Field

/-- Refuses settings for the first of some fields that is zero. -/
def judge (s : Settings) (fields : List Field) : Except Fault Unit :=
  match fields.find? fun f => f.kind.isZero (s.get f) with
  | some f => .error (.invalid f.complaint)
  | none => .ok ()

/-- A field that is looked at before others. -/
theorem judge_cons {s : Settings} {f : Field} {n : Nat} (h : f.kind.isZero (s.get f) = (n == 0))
    (fields : List Field) :
    (do
      if n = 0 then throw (.invalid f.complaint)
      judge s fields) = judge s (f :: fields) := by
  rw [judge, judge, List.find?_cons, h]
  by_cases hn : n = 0
  · rw [if_pos hn, beq_iff_eq.2 hn]
    rfl
  · rw [if_neg hn, beq_false_of_ne hn]

/-- Limits of time are looked at by name. -/
theorem judge_limits (s : Settings) :
    (match firstZero [("registry.request_timeout_secs", s.registry.requestTimeout),
        ("clusters.connect_timeout_secs", s.clusters.connectTimeout),
        ("clusters.request_timeout_secs", s.clusters.requestTimeout),
        ("monitoring.request_timeout_secs", s.monitoring.requestTimeout)] with
      | some name => throw (.invalid s!"{name} cannot be 0")
      | none => return ()) =
      judge s [.registryTimeout, .connectTimeout, .clusterTimeout, .monitoringTimeout] := by
  have registry : Field.registryTimeout.kind.isZero (s.get .registryTimeout) =
    (s.registry.requestTimeout == 0) := rfl
  have connect : Field.connectTimeout.kind.isZero (s.get .connectTimeout) =
    (s.clusters.connectTimeout == 0) := rfl
  have cluster : Field.clusterTimeout.kind.isZero (s.get .clusterTimeout) =
    (s.clusters.requestTimeout == 0) := rfl
  have monitoring : Field.monitoringTimeout.kind.isZero (s.get .monitoringTimeout) =
    (s.monitoring.requestTimeout == 0) := rfl
  simp only [firstZero, judge, List.find?_cons, List.find?_nil, registry, connect, cluster,
    monitoring]
  cases s.registry.requestTimeout == 0 <;> cases s.clusters.connectTimeout == 0 <;>
    cases s.clusters.requestTimeout == 0 <;> cases s.monitoring.requestTimeout == 0 <;> rfl

theorem validate_eq (s : Settings) : s.validate = judge s Field.needed := by
  rw [Field.needed, ← judge_cons (n := s.server.port) rfl,
    ← judge_cons (n := s.reconciler.interval) rfl, ← judge_cons (n := s.reconciler.pageSize) rfl,
    ← judge_limits]
  rfl

/-- The file that there is: what the first place leads to that leads to anything. -/
inductive IsFound (disk : Disk) (env : Environment) : File → Prop where
  | absent : (∀ path ∈ places env, disk path = none) → IsFound disk env .absent
  | unreadable {path reason : String} : IsFirst (disk · ≠ none) path (places env) →
    disk path = some (.error reason) → IsFound disk env (.unreadable path reason)
  | content {path text : String} : IsFirst (disk · ≠ none) path (places env) →
    disk path = some (.ok text) → IsFound disk env (.content text)

theorem isFound_find (disk : Disk) (env : Environment) : IsFound disk env (disk.find env) := by
  rw [Disk.find]
  cases hf : (places env).findSome? disk.file? with
  | none =>
    refine .absent fun path hp => ?_
    simpa [Disk.file?] using List.findSome?_eq_none_iff.1 hf path hp
  | some file =>
    obtain ⟨before, path, behind, split, found, absent⟩ := List.findSome?_eq_some_iff.1 hf
    obtain ⟨there, hd, rfl⟩ := Option.map_eq_some_iff.1 found
    have first : IsFirst (disk · ≠ none) path (places env) := by
      refine ⟨ne_of_eq_of_ne hd (Option.some_ne_none there), before, behind, split, fun p hp => ?_⟩
      simpa [Disk.file?] using absent p hp
    cases there with
    | ok text => exact .content first hd
    | error reason => exact .unreadable first hd

/-- For each field the value of the first layer that has one, or else the default. -/
def layered (above below : Layer) (f : Field) : f.Value := ((above f).or (below f)).getD f.default

/-- Why there are no settings: the first of all that is wrong, in the order in which the file is
read, its text is decoded, the environment is read and the whole is judged. -/
inductive IsFault (dialect : Toml.Dialect) (file : File) (env : Environment) : Fault → Prop where
  | unreadable {path reason : String} : file = .unreadable path reason →
    IsFault dialect file env (.unreadable path reason)
  | malformed {text reason : String} : file = .content text →
    (∀ values, ¬ file.Gives dialect values) → IsFault dialect file env (.malformed reason)
  | misread {below : Layer} {f : Field} {t : String} : file.Gives dialect below →
    IsFirst (Field.IsMisread env) f Field.overrides → f.given? env = some t →
    IsFault dialect file env (f.misread t)
  | zero {below above : Layer} {f : Field} : file.Gives dialect below → env.Sets above →
    IsFirst (fun f => f.kind.isZero (layered above below f) = true) f Field.needed →
    IsFault dialect file env (.invalid f.complaint)

/-- What loading comes to. -/
structure IsLoaded (dialect : Toml.Dialect) (file : File) (env : Environment)
    (result : Except Fault Settings) : Prop where
  /-- Settings are loaded exactly if the file is one of settings, the environment sets values, and
  no field that is needed is zero in the end. What a field has in the file does not matter if the
  environment sets it, and where the environment does not set a field, it does not change it. -/
  accepted : ∀ s, result = .ok s ↔ ∃ below above, file.Gives dialect below ∧ env.Sets above ∧
    (∀ f ∈ Field.needed, f.kind.isZero (layered above below f) = false) ∧
    ∀ f, s.get f = layered above below f
  /-- Where no settings are loaded, the first fault is reported. -/
  refused : ∀ fault, result = .error fault → IsFault dialect file env fault

/-- The settings of a file below those of the environment. -/
theorem withEnvironment_layered {env : Environment} {below above : Layer} {s : Settings}
    (hu : ∀ f, s.get f = (below f).getD f.default) (sets : env.Sets above) :
    s.withEnvironment env = .ok (ofValues (layered above below)) := by
  rw [withEnvironment_of_sets sets]
  congr 2
  funext f
  rw [hu, layered]
  cases above f <;> rfl

/-- Settings of a file are changed by what the environment sets, or a text of it is misread. -/
theorem withEnvironment_cases {below : Layer} {s : Settings}
    (hu : ∀ f, s.get f = (below f).getD f.default) (env : Environment) :
    (∃ above, env.Sets above ∧ s.withEnvironment env = .ok (ofValues (layered above below))) ∨
      ∃ f t, IsFirst (Field.IsMisread env) f Field.overrides ∧ f.given? env = some t ∧
        s.withEnvironment env = .error (f.misread t) := by
  obtain ⟨above, sets⟩ | ⟨f, t, first, ht⟩ := sets_or_isFirst env
  · exact .inl ⟨above, sets, withEnvironment_layered hu sets⟩
  · refine .inr ⟨f, t, first, ht, ?_⟩
    rw [withEnvironment_eq, foldlM_override_of_isFirst first ht]

/-- Settings are judged to be good, or there is a first field that is zero. -/
theorem judge_cases (s : Settings) (fields : List Field) :
    (∀ f ∈ fields, f.kind.isZero (s.get f) = false) ∧ judge s fields = .ok () ∨
      ∃ f, IsFirst (fun f => f.kind.isZero (s.get f) = true) f fields ∧
        judge s fields = .error (.invalid f.complaint) := by
  rw [judge]
  cases hf : fields.find? fun f => f.kind.isZero (s.get f) with
  | none => exact .inl ⟨by simpa using hf, rfl⟩
  | some f => exact .inr ⟨f, isFirst_of_find? hf, rfl⟩

namespace File

variable {dialect : Toml.Dialect} {file : File} {env : Environment} {below above : Layer}

/-- A file that gives values is read as these, below defaults. -/
theorem settings_of_gives (gives : file.Gives dialect below) :
    file.settings dialect.read = .ok (ofValues fun f => (below f).getD f.default) :=
  settings_eq_ok_iff.2 ⟨below, gives, fun f => congrFun (get_ofValues _) f⟩

/-- The whole is judged when the file has been read and the environment as well. -/
theorem load_eq_judge {s t : Settings} (hs : file.settings dialect.read = .ok s)
    (ht : s.withEnvironment env = .ok t) :
    file.load dialect.read env = judge t Field.needed >>= fun _ => .ok t := by
  rw [load, hs]
  change s.withEnvironment env >>= _ = _
  rw [ht]
  change t.validate >>= _ = _
  rw [validate_eq]
  rfl

/-- Layers without a zero where there may be none are loaded. -/
theorem load_of_layers (gives : file.Gives dialect below) (sets : env.Sets above)
    (fine : ∀ f ∈ Field.needed, f.kind.isZero (layered above below f) = false) :
    file.load dialect.read env = .ok (ofValues (layered above below)) := by
  rw [load_eq_judge (settings_of_gives gives)
    (withEnvironment_layered (fun f => congrFun (get_ofValues _) f) sets)]
  obtain ⟨-, judged⟩ | ⟨f, ⟨zero, before, behind, split, -⟩, -⟩ :=
    judge_cases (ofValues (layered above below)) Field.needed
  · rw [judged]
    rfl
  · have hf : f ∈ Field.needed := by simp [split]
    rw [get_ofValues, fine f hf] at zero
    cases zero

/-- A file that is not read has a fault of its own. -/
theorem isFault_of_settings {fault : Fault} (h : file.settings dialect.read = .error fault) :
    IsFault dialect file env fault := by
  cases file with
  | absent => cases h
  | unreadable path reason =>
    cases h
    exact .unreadable rfl
  | content text =>
    obtain ⟨reason, rfl⟩ := readText_error h
    refine .malformed rfl fun values gives => ?_
    rw [settings_of_gives gives] at h
    cases h

/-- Layers are loaded, or there is a first fault. -/
theorem load_cases (dialect : Toml.Dialect) (file : File) (env : Environment) :
    (∃ below above, file.Gives dialect below ∧ env.Sets above ∧
      (∀ f ∈ Field.needed, f.kind.isZero (layered above below f) = false) ∧
      file.load dialect.read env = .ok (ofValues (layered above below))) ∨
    ∃ fault, IsFault dialect file env fault ∧ file.load dialect.read env = .error fault := by
  cases hs : file.settings dialect.read with
  | error fault =>
    refine .inr ⟨fault, isFault_of_settings hs, ?_⟩
    rw [load, hs]
    rfl
  | ok s =>
    obtain ⟨below, gives, hu⟩ := settings_eq_ok_iff.1 hs
    obtain ⟨above, sets, ht⟩ | ⟨f, t, first, hf, ht⟩ := withEnvironment_cases hu env
    · obtain ⟨fine, -⟩ | ⟨f, first, judged⟩ :=
        judge_cases (ofValues (layered above below)) Field.needed
      · rw [get_ofValues] at fine
        exact .inl ⟨below, above, gives, sets, fine, load_of_layers gives sets fine⟩
      · rw [get_ofValues] at first
        refine .inr ⟨_, .zero gives sets first, ?_⟩
        rw [load_eq_judge hs ht, judged]
        rfl
    · refine .inr ⟨_, .misread gives first hf, ?_⟩
      rw [load, hs]
      change s.withEnvironment env >>= _ = _
      rw [ht]
      rfl

end File

theorem load_eq (disk : Disk) (env : Environment) :
    load disk env = loadBy Toml.Dialect.parsed.read disk env := rfl

/-- In any dialect, the settings that are loaded are those of the file that there is and of the
environment. -/
theorem settings_layered (dialect : Toml.Dialect) (disk : Disk) (env : Environment) :
    ∃ file, IsFound disk env file ∧ IsLoaded dialect file env (loadBy dialect.read disk env) := by
  refine ⟨disk.find env, isFound_find disk env, fun s => ⟨fun h => ?_, ?_⟩, fun fault h => ?_⟩
  · obtain ⟨below, above, gives, sets, fine, loaded⟩ | ⟨_, -, failed⟩ :=
      (disk.find env).load_cases dialect env
    · obtain rfl := Except.ok.inj (loaded.symm.trans h)
      exact ⟨below, above, gives, sets, fine, fun f => congrFun (get_ofValues _) f⟩
    · cases failed.symm.trans h
  · rintro ⟨below, above, gives, sets, fine, hs⟩
    rw [loadBy, File.load_of_layers gives sets fine, ← funext hs, ofValues_get]
  · obtain ⟨_, _, _, _, _, loaded⟩ | ⟨fault', is, failed⟩ := (disk.find env).load_cases dialect env
    · cases loaded.symm.trans h
    · obtain rfl := Except.error.inj (failed.symm.trans h)
      exact is

end Settings
end MultiCluster
