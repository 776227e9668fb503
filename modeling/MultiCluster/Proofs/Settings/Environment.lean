import MultiCluster.Proofs.Settings.Field
import MultiCluster.Proofs.Text.Numeral
import MultiCluster.Settings.Load

/-! What the environment makes of settings: each variable sets one field, and the first that cannot
be read is reported. -/
namespace MultiCluster

/-- The first item of a list with a property. -/
def IsFirst {α : Type} (P : α → Prop) (a : α) (as : List α) : Prop :=
  P a ∧ ∃ before behind, as = before ++ a :: behind ∧ ∀ b ∈ before, ¬ P b

theorem forall_not_or_exists_isFirst {α : Type} (P : α → Prop) (as : List α) :
    (∀ a ∈ as, ¬ P a) ∨ ∃ a, IsFirst P a as := by
  induction as with
  | nil => exact .inl nofun
  | cons a as ih =>
    by_cases h : P a
    · exact .inr ⟨a, h, [], as, rfl, nofun⟩
    · obtain none | ⟨b, hb, before, behind, rfl, none⟩ := ih
      · exact .inl (List.forall_mem_cons.2 ⟨h, none⟩)
      · exact .inr ⟨b, hb, a :: before, behind, rfl, List.forall_mem_cons.2 ⟨h, none⟩⟩

theorem Scope.parse?_eq_some_iff {name : String} {scope : Scope} :
    parse? name = some scope ↔ name = scope.text := by
  unfold parse?
  split
  · cases scope <;> simp [text]
  · cases scope <;> simp [text]
  · next all first =>
    constructor
    · rintro ⟨⟩
    · rintro rfl
      cases scope
      · exact absurd rfl all
      · exact absurd rfl first

namespace Settings

open Quantity (Digits Sign)

/-- The values that a text writes. A number has digits, behind a plus or not. -/
def Kind.IsWritten : (k : Kind) → String → k.Value → Prop
  | text, t, s => s = t
  | optionalText, t, s => s = some t
  | number width, t, (n : Nat) => ∃ (sign : Sign) (ds : Digits), sign ≠ .minus ∧ ds ≠ [] ∧
      t.toList = sign.chars ++ ds.chars ∧ n = ds.value ∧ n < Word.limit width
  | flag, _, _ => False
  | scope, t, s => t = Scope.text s

/-- Reads the value that a text writes. -/
def Kind.ofText? : (k : Kind) → String → Option k.Value
  | text, t => some t
  | optionalText, t => some (some t)
  | number width, t => Text.readUnsigned width t.toList
  | flag, _ => none
  | scope, t => Scope.parse? t

theorem Kind.ofText?_eq_some_iff {k : Kind} {t : String} {v : k.Value} :
    k.ofText? t = some v ↔ k.IsWritten t v := by
  cases k with
  | text => exact Option.some_inj.trans eq_comm
  | optionalText => exact Option.some_inj.trans eq_comm
  | number width => exact Text.readUnsigned_eq_some_iff
  | flag => exact iff_of_false nofun id
  | scope => exact Scope.parse?_eq_some_iff

namespace Field

/-- The name of the variable that sets a field. -/
def name? : Field → Option String
  | host => some "KUBEFLEET_HOST"
  | port => some "KUBEFLEET_PORT"
  | kubeconfig => some "KUBEFLEET_REGISTRY_KUBECONFIG"
  | interval => some "KUBEFLEET_RECONCILE_INTERVAL"
  | pageSize => some "KUBEFLEET_RECONCILE_PAGE_SIZE"
  | scope => some "KUBEFLEET_RECONCILE_SCOPE"
  | level => some "KUBEFLEET_LOG_LEVEL"
  | directory => some "KUBEFLEET_LOG_DIR"
  | _ => none

/-- The fields with a variable, in the order in which they are set. -/
def overrides : List Field := [host, port, kubeconfig, interval, pageSize, scope, level, directory]

theorem mem_overrides_iff {f : Field} : f ∈ overrides ↔ f.name?.isSome = true := by
  cases f <;> decide

/-- What is reported of a text that does not write a value. -/
def misread (f : Field) (t : String) : Fault :=
  match f with
  | scope => .invalid s!"unknown reconcile scope '{t}'"
  | _ =>
    let name := f.name?.getD ""
    .invalid s!"{name} has invalid value '{t}'"

/-- The text that the environment has for a field. -/
def given? (env : Environment) (f : Field) : Option String := f.name?.bind env

/-- The environment has a text for a field that does not write a value. -/
def IsMisread (env : Environment) (f : Field) : Prop :=
  ∃ t, f.given? env = some t ∧ ∀ v, ¬ f.kind.IsWritten t v

/-- Changes settings by the text for a field. -/
def override (f : Field) (env : Environment) (s : Settings) : Except Fault Settings :=
  match f.given? env with
  | none => .ok s
  | some t =>
    match f.kind.ofText? t with
    | some v => .ok (ofValues (Function.update s.get f v))
    | none => .error (f.misread t)

end Field

/-- A change by a variable is one by the field that it sets. -/
theorem override_eq {f : Field} {name : String} (hn : f.name? = some name) (env : Environment)
    {change : String → Settings → Except Fault Settings}
    (hc : ∀ t s, change t s = match f.kind.ofText? t with
      | some v => .ok (ofValues (Function.update s.get f v))
      | none => .error (f.misread t)) (s : Settings) :
    override env name change s = f.override env s := by
  rw [override, Field.override, Field.given?, hn, Option.bind_some]
  cases env name with
  | none => rfl
  | some t => exact hc t s

theorem overrideNumber_eq {f : Field} {name : String} (hn : f.name? = some name) {width : Nat}
    (value : Nat → f.Value)
    (ht : ∀ t, f.kind.ofText? t = (Text.readUnsigned width t.toList).map value)
    (hm : ∀ t, f.misread t = .invalid s!"{name} has invalid value '{t}'") (env : Environment)
    {change : Nat → Settings → Settings}
    (hc : ∀ n s, change n s = ofValues (Function.update s.get f (value n))) (s : Settings) :
    overrideNumber env name width change s = f.override env s := by
  refine override_eq hn env (fun t s => ?_) s
  rw [ht, hm]
  cases Text.readUnsigned width t.toList with
  | none => rfl
  | some n => exact congrArg _ (hc n s)

theorem withEnvironment_eq (env : Environment) (s : Settings) :
    s.withEnvironment env = Field.overrides.foldlM (fun s f => f.override env s) s := by
  have whole {α : Type} (o : Option α) : o = o.map id := Option.map_id'.symm
  rw [withEnvironment]
  simp only [Field.overrides, List.foldlM_cons, List.foldlM_nil, bind_pure]
  refine congrArg₂ _ (override_eq (f := .host) rfl env (fun _ _ => rfl) s) (funext fun s => ?_)
  refine congrArg₂ _ (overrideNumber_eq (f := .port) rfl id (fun _ => whole _) (fun _ => rfl) env
    (fun _ _ => rfl) s) (funext fun s => ?_)
  refine congrArg₂ _ (override_eq (f := .kubeconfig) rfl env (fun _ _ => rfl) s)
    (funext fun s => ?_)
  refine congrArg₂ _ (overrideNumber_eq (f := .interval) rfl id (fun _ => whole _) (fun _ => rfl)
    env (fun _ _ => rfl) s) (funext fun s => ?_)
  refine congrArg₂ _ (overrideNumber_eq (f := .pageSize) rfl id (fun _ => whole _) (fun _ => rfl)
    env (fun _ _ => rfl) s) (funext fun s => ?_)
  refine congrArg₂ _ (override_eq (f := .scope) rfl env (fun t s => ?_) s) (funext fun s => ?_)
  · generalize h : Field.scope.kind.ofText? t = v
    change Scope.parse? t = v at h
    rw [readScope, h]
    cases v <;> rfl
  refine congrArg₂ _ (override_eq (f := .level) rfl env (fun _ _ => rfl) s) (funext fun s => ?_)
  exact override_eq (f := .directory) rfl env (fun _ _ => rfl) s

section

variable {env : Environment} {s : Settings}

/-- The value that the environment has for a field, if its text writes one. -/
def Field.value? (env : Environment) (f : Field) : Option f.Value :=
  (f.given? env).bind f.kind.ofText?

theorem rel_value? {f : Field} (h : ¬ f.IsMisread env) :
    Option.Rel f.kind.IsWritten (f.given? env) (f.value? env) := by
  rw [Field.value?]
  cases ht : f.given? env with
  | none => exact .none
  | some t =>
    rw [Option.bind_some]
    cases hv : f.kind.ofText? t with
    | none => exact absurd ⟨t, ht, fun v hw => by simp [Kind.ofText?_eq_some_iff.2 hw] at hv⟩ h
    | some v => exact .some (Kind.ofText?_eq_some_iff.1 hv)

/-- What a text that writes a value makes of settings: it sets one field, and no other. -/
theorem override_of_rel {f : Field} {v : Option f.Value}
    (h : Option.Rel f.kind.IsWritten (f.given? env) v) :
    f.override env s = .ok (ofValues (Function.update s.get f (v.getD (s.get f)))) := by
  rw [Field.override]
  generalize f.given? env = t at h
  cases h with
  | none => rw [Option.getD_none, Function.update_eq_self, ofValues_get]
  | some hw =>
    dsimp only
    rw [Kind.ofText?_eq_some_iff.2 hw]
    rfl

theorem override_of_misread {f : Field} {t : String} (ht : f.given? env = some t)
    (h : ∀ v, ¬ f.kind.IsWritten t v) : f.override env s = .error (f.misread t) := by
  rw [Field.override, ht]
  dsimp only
  cases hv : f.kind.ofText? t with
  | none => rfl
  | some v => exact absurd (Kind.ofText?_eq_some_iff.1 hv) (h v)

/-- Texts that write values set their fields, one after the other. -/
theorem foldlM_override (values : Layer) {fields : List Field}
    (h : ∀ f ∈ fields, Option.Rel f.kind.IsWritten (f.given? env) (values f)) :
    fields.foldlM (fun s f => f.override env s) s =
      .ok (ofValues fun f => if f ∈ fields then (values f).getD (s.get f) else s.get f) := by
  induction fields generalizing s with
  | nil => rfl
  | cons f fields ih =>
    rw [List.foldlM_cons, override_of_rel (h f List.mem_cons_self)]
    refine (ih (List.forall_mem_cons.1 h).2).trans (congrArg (Except.ok ∘ ofValues) ?_)
    funext g
    rw [get_ofValues]
    by_cases hg : g = f
    · subst hg
      rw [Function.update_self, if_pos List.mem_cons_self]
      cases values g <;> simp
    · simp [hg]

/-- The first text that does not write a value is reported. -/
theorem foldlM_override_of_isFirst {f : Field} {fields : List Field} {t : String}
    (h : IsFirst (Field.IsMisread env) f fields) (ht : f.given? env = some t) :
    fields.foldlM (fun s f => f.override env s) s = .error (f.misread t) := by
  obtain ⟨⟨t', ht', bad⟩, before, behind, rfl, fine⟩ := h
  obtain rfl : t' = t := Option.some.inj (ht'.symm.trans ht)
  simp only [List.foldlM_append, foldlM_override _ fun g hg => rel_value? (fine g hg),
    List.foldlM_cons]
  exact congrArg (· >>= fun s => behind.foldlM (fun s f => f.override env s) s)
    (override_of_misread ht bad)

/-- The values that the environment sets: for a field without a text there is none, and each text
writes the value of its field. -/
def Environment.Sets (env : Environment) (values : Layer) : Prop :=
  ∀ f : Field, Option.Rel f.kind.IsWritten (f.given? env) (values f)

/-- The environment sets values, or there is a first text that does not write one. -/
theorem sets_or_isFirst (env : Environment) : (∃ values, env.Sets values) ∨
    ∃ f t, IsFirst (Field.IsMisread env) f Field.overrides ∧ f.given? env = some t := by
  obtain fine | ⟨f, first⟩ := forall_not_or_exists_isFirst (Field.IsMisread env) Field.overrides
  · refine .inl ⟨Field.value? env, fun f => rel_value? fun ⟨t, ht, bad⟩ => ?_⟩
    refine fine f (Field.mem_overrides_iff.2 ?_) ⟨t, ht, bad⟩
    obtain ⟨_, hn, -⟩ := Option.bind_eq_some_iff.1 ht
    exact Option.isSome_of_eq_some hn
  · obtain ⟨t, ht, -⟩ := first.1
    exact .inr ⟨f, t, first, ht⟩

theorem withEnvironment_of_sets {values : Layer} (h : env.Sets values) :
    s.withEnvironment env = .ok (ofValues fun f => (values f).getD (s.get f)) := by
  rw [withEnvironment_eq, foldlM_override values fun f _ => h f]
  congr 2
  funext f
  split
  · rfl
  · next hf =>
    have unset : f.given? env = none := by
      rw [Field.mem_overrides_iff, Option.not_isSome_iff_eq_none] at hf
      rw [Field.given?, hf]
      rfl
    have hv := h f
    rw [unset] at hv
    cases hv' : values f with
    | none => rfl
    | some v =>
      rw [hv'] at hv
      cases hv

end

end Settings
end MultiCluster
