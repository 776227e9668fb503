import MultiCluster.Proofs.Json.Merge
import MultiCluster.Proofs.Kube.Target

/-! What a draft of a deployment leads to: when it is refused, and which requests it makes. -/
namespace MultiCluster.Deployment

/-- The members of the description in a draft that are known, if it can be read. -/
def Draft.known? (d : Draft) : Option (List (String × Json)) :=
  d.spec.bind fun spec => (specShape.readForSending spec).bind Json.members?

/-- Members that differ from others at most in the number of replicas, which is the given one, if
one is given. -/
structure IsOverridden (replicas : Option Int) (known members : List (String × Json)) : Prop where
  replicas : Json.given "replicas" members = match replicas with
    | some n => [.int n]
    | none => Json.given "replicas" known
  others : ∀ key ≠ "replicas", Json.given key members = Json.given key known

/-- The object under a name with a description, and with labels if there are any. -/
def described (ns : String) (d : Draft) (members : List (String × Json)) : Json :=
  let labels := if d.labels = [] then [] else [("labels", Json.ofTexts d.labels)]
  .obj [("apiVersion", .str "apps/v1"), ("kind", .str "Deployment"),
    ("metadata", .obj ([("name", .str d.name), ("namespace", .str ns)] ++ labels)),
    ("spec", .obj members)]

/-- Members of an object that differ from those before at most in the number of replicas in its
specification, which is the given one. -/
structure ChangesReplicas (n : Int) (members members' : List (String × Json)) : Prop where
  others : ∀ key ≠ "spec", Json.given key members' = Json.given key members
  spec : let before := ((members.lookup "spec").bind Json.members?).getD []
    ∃ after, Json.given "spec" members' = .obj after :: (Json.given "spec" members).tail ∧
      Json.given "replicas" after = .int n :: (Json.given "replicas" before).tail ∧
      ∀ key ≠ "replicas", Json.given key after = Json.given key before

/-- Known members with another number of replicas, if one is given. -/
def override (replicas : Option Int) (known : List (String × Json)) : List (String × Json) :=
  match replicas with
  | some n => Json.putMember "replicas" (.int n) (known.filter (·.1 != "replicas"))
  | none => known

theorem override_isOverridden (replicas : Option Int) (known : List (String × Json)) :
    IsOverridden replicas known (override replicas known) := by
  cases replicas with
  | none => exact ⟨rfl, fun _ _ => rfl⟩
  | some n =>
    have absent : Json.given "replicas" (known.filter (·.1 != "replicas")) = [] := by
      rw [Json.given_filter_ne, if_pos rfl]
    constructor
    case replicas => rw [override, Json.given_putMember absent, if_pos rfl]
    case others =>
      intro key hk
      rw [override, Json.given_putMember absent, if_neg hk, Json.given_filter_ne, if_neg hk]

/-- Either there is no object or it is the one described. -/
theorem object_cases (ns : String) (d : Draft) :
    (d.name = "" ∨ d.known? = none) ∧ (∃ m, object ns d = .error (.invalidInput m)) ∨
      d.name ≠ "" ∧ ∃ known, d.known? = some known ∧
        object ns d = .ok (described ns d (override d.replicas known)) := by
  obtain ⟨name, labels, spec, replicas⟩ := d
  by_cases hn : name = ""
  · subst hn
    exact .inl ⟨.inl rfl, _, rfl⟩
  have he : name.isEmpty = false := by simpa using hn
  cases spec with
  | none => exact .inl ⟨.inr rfl, _, by simp only [object, he]; rfl⟩
  | some spec =>
    cases hr : specShape.readForSending spec with
    | none =>
      exact .inl ⟨.inr (by simp [Draft.known?, hr]), _, by simp only [object, he, hr]; rfl⟩
    | some j =>
      cases j with
      | obj known =>
        refine .inr ⟨hn, known, by simp [Draft.known?, hr, Json.members?], ?_⟩
        simp only [object, he, hr]
        cases labels <;> cases replicas <;> rfl
      | _ =>
        exact .inl ⟨.inr (by simp [Draft.known?, hr, Json.members?]), _,
          by simp only [object, he, hr]; rfl⟩

/-- What comes of a creation, which may be one that is only tried: it is refused, or a request that
cannot be sent, or one that can. -/
inductive Creates (rehearsal : Bool) (ns : String) (d : Draft) : Except Error Kube.Request → Prop where
  | refused (m : String) (h : d.name = "" ∨ d.known? = none)
      (ho : object ns d = .error (.invalidInput m)) : Creates rehearsal ns d (.error (.invalidInput m))
  | unsendable (m : String) (hn : d.name ≠ "") {known : List (String × Json)}
      (hk : d.known? = some known) : Creates rehearsal ns d (.error (.transport m))
  | sendable (r : Kube.Request) (hn : d.name ≠ "") {known : List (String × Json)}
      (hk : d.known? = some known)
      (hb : Kube.Request.build? .post
        (collection ns ++ "?" ++ if rehearsal then "&dryRun=All" else "")
        (some (.json, described ns d (override d.replicas known))) = some r) :
      Creates rehearsal ns d (.ok r)

theorem createRequest_creates (rehearsal : Bool) (ns : String) (d : Draft) :
    Creates rehearsal ns d (createRequest rehearsal ns d) := by
  obtain ⟨hd, m, hm⟩ | ⟨hn, known, hk, ho⟩ := object_cases ns d
  · rw [createRequest, hm]
    exact .refused m hd hm
  · rw [createRequest, ho]
    change Creates rehearsal ns d (sendable (Kube.Request.build? .post
      (collection ns ++ "?" ++ if rehearsal then "&dryRun=All" else "") _))
    cases hb : Kube.Request.build? .post
      (collection ns ++ "?" ++ if rehearsal then "&dryRun=All" else "")
      (some (.json, described ns d (override d.replicas known))) with
    | none => exact .unsendable _ hn hk
    | some r => exact .sendable r hn hk hb

/-- The patch that sets the number of replicas. -/
def replicasPatch (n : Int) : Json := .obj [("spec", .obj [("replicas", .int n)])]

theorem replicasPatch_merged (n : Int) (members : List (String × Json)) :
    ∃ members', Json.mergePatch (.obj members) (replicasPatch n) = .obj members' ∧
      ChangesReplicas n members members' := by
  let before := ((members.lookup "spec").bind Json.members?).getD []
  let after := Json.setMember "replicas" (.int n) before
  have target : ((members.lookup "spec").getD .null).members?.getD [] = before := by
    simp only [before]
    cases members.lookup "spec" <;> rfl
  refine ⟨Json.setMember "spec" (.obj after) members, ?_, ?_, after, ?_, ?_, ?_⟩
  · have whole : (Json.obj members).members?.getD [] = members := rfl
    simp only [replicasPatch, Json.mergePatch, Json.mergeMembers, whole, target, after]
  · exact fun key hk => Json.given_setMember_of_ne (Ne.symm hk) _ _
  · exact Json.given_setMember _ _ _
  · exact Json.given_setMember _ _ _
  · exact fun key hk => Json.given_setMember_of_ne (Ne.symm hk) _ _

/-- What comes of a change of the number of replicas. Without a name there is a request that cannot
be sent. -/
inductive Scales (ns : String) (d : Draft) : Except Error Kube.Request → Prop where
  | refused (m : String) (h : ∀ n, d.replicas = some n → n < 0) : Scales ns d (.error (.invalidInput m))
  | unsendable (m : String) {n : Int} (hr : d.replicas = some n) (h0 : 0 ≤ n) :
      Scales ns d (.error (.transport m))
  | sendable (r : Kube.Request) {n : Int} (hr : d.replicas = some n) (h0 : 0 ≤ n) (hn : d.name ≠ "")
      (hb : Kube.Request.build? .patch (item ns d.name ++ "?")
        (some (.mergePatch, replicasPatch n)) = some r) : Scales ns d (.ok r)

theorem scaleRequest_scales (ns : String) (d : Draft) : Scales ns d (scaleRequest ns d) := by
  rw [scaleRequest]
  cases hr : d.replicas with
  | none => exact .refused _ (by simp [hr])
  | some n =>
    by_cases h0 : n < 0
    · simp only [scalePatch, if_pos h0]
      exact .refused _ (by simp [hr, h0])
    · simp only [scalePatch, if_neg h0]
      change Scales ns d (named d.name (Kube.Request.build? .patch (item ns d.name ++ "?")
        (some (.mergePatch, replicasPatch n))))
      rw [named]
      split
      · exact .unsendable _ hr (by omega)
      · next hn =>
        cases hb : Kube.Request.build? .patch (item ns d.name ++ "?")
          (some (.mergePatch, replicasPatch n)) with
        | none => exact .unsendable _ hr (by omega)
        | some r => exact .sendable r hr (by omega) (by simpa using hn) hb

/-- What requests a draft leads to. Nothing bounds the number of replicas from below in a creation. -/
structure Draft.IsJudged (ns : String) (d : Draft) : Prop where
  /-- A creation, in earnest or not, is refused without a name or a description that can be read. -/
  creation : ∀ action ≠ .scale, (∃ m, applyRequest ns d action = .error (.invalidInput m)) ↔
    d.name = "" ∨ d.known? = none
  alike : ∀ m, applyRequest ns d .create = .error (.invalidInput m) ↔
    applyRequest ns d .rehearse = .error (.invalidInput m)
  /-- A change of the number of replicas is refused without one or if it is negative. -/
  scaling : (∃ m, applyRequest ns d .scale = .error (.invalidInput m)) ↔
    ∀ n, d.replicas = some n → n < 0
  /-- What is not refused may still have no request. -/
  unsendable : ∀ action e, applyRequest ns d action = .error e →
    (∃ m, e = .invalidInput m) ∨ ∃ m, e = .transport m
  named : ∀ action r, applyRequest ns d action = .ok r → d.name ≠ ""
  created : ∀ action ≠ .scale, ∀ r, applyRequest ns d action = .ok r → r.method = .post ∧
    ∃ known members, d.known? = some known ∧ IsOverridden d.replicas known members ∧
      r.body = some (.json, described ns d members)
  /-- A number sign in the namespace hides that a creation is only to be tried. -/
  rehearsed : ∀ r s, applyRequest ns d .create = .ok r → applyRequest ns d .rehearse = .ok s →
    s.method = r.method ∧ s.path = r.path ∧ s.body = r.body ∧
      if '#' ∈ ns.toList then s.query = r.query
      else ∃ query, r.query = some query ∧ s.query = some (query ++ "&dryRun=All")
  scaled : ∀ r, applyRequest ns d .scale = .ok r → r.method = .patch ∧ ∃ n patch, 0 ≤ n ∧
    d.replicas = some n ∧ r.body = some (.mergePatch, patch) ∧
      ∀ members, ∃ members', Json.mergePatch (.obj members) patch = .obj members' ∧
        ChangesReplicas n members members'

private theorem head?_collection (ns tail : String) :
    (collection ns ++ tail).toList.head? = some '/' := by
  simp [toList_collection]

/-- A creation in earnest and one that is only tried are made in one way. -/
private theorem applyRequest_creates {action : Action} (ha : action ≠ .scale) (ns : String)
    (d : Draft) : ∃ rehearsal, Creates rehearsal ns d (applyRequest ns d action) := by
  cases action with
  | create => exact ⟨false, createRequest_creates false ns d⟩
  | rehearse => exact ⟨true, createRequest_creates true ns d⟩
  | scale => exact absurd rfl ha

private theorem applyRequest_scales (ns : String) (d : Draft) :
    Scales ns d (applyRequest ns d .scale) := scaleRequest_scales ns d

theorem Draft.isJudged (ns : String) (d : Draft) : d.IsJudged ns := by
  constructor
  case creation =>
    intro action ha
    obtain ⟨rehearsal, h⟩ := applyRequest_creates ha ns d
    generalize applyRequest ns d action = result at h
    cases h with
    | refused m h => exact ⟨fun _ => h, fun _ => ⟨m, rfl⟩⟩
    | unsendable m hn hk => simp [hn, hk]
    | sendable r hn hk => simp [hn, hk]
  case alike =>
    intro m
    obtain ⟨rehearsal, h⟩ := applyRequest_creates (show Action.create ≠ .scale by simp) ns d
    obtain ⟨rehearsal', h'⟩ := applyRequest_creates (show Action.rehearse ≠ .scale by simp) ns d
    generalize applyRequest ns d .create = result at h
    generalize applyRequest ns d .rehearse = result' at h'
    cases h <;> cases h' <;> simp_all
  case scaling =>
    have h := applyRequest_scales ns d
    generalize applyRequest ns d .scale = result at h
    cases h with
    | refused m h => exact ⟨fun _ => h, fun _ => ⟨m, rfl⟩⟩
    | unsendable m hr h0 => simp [hr, h0]
    | sendable r hr h0 => simp [hr, h0]
  case unsendable =>
    intro action e he
    by_cases ha : action = .scale
    · subst ha
      have h := applyRequest_scales ns d
      rw [he] at h
      cases h with
      | refused m => exact .inl ⟨m, rfl⟩
      | unsendable m => exact .inr ⟨m, rfl⟩
    · obtain ⟨rehearsal, h⟩ := applyRequest_creates ha ns d
      rw [he] at h
      cases h with
      | refused m => exact .inl ⟨m, rfl⟩
      | unsendable m => exact .inr ⟨m, rfl⟩
  case named =>
    intro action r hr
    by_cases ha : action = .scale
    · subst ha
      have h := applyRequest_scales ns d
      rw [hr] at h
      cases h with
      | sendable _ _ _ hn => exact hn
    · obtain ⟨rehearsal, h⟩ := applyRequest_creates ha ns d
      rw [hr] at h
      cases h with
      | sendable _ hn => exact hn
  case created =>
    intro action ha r hr
    obtain ⟨rehearsal, h⟩ := applyRequest_creates ha ns d
    rw [hr] at h
    cases h with
    | sendable _ hn hk hb =>
      rw [String.append_assoc] at hb
      obtain ⟨t, -, rfl⟩ := Kube.Request.build?_slash (head?_collection ns _) hb
      exact ⟨rfl, _, _, hk, override_isOverridden _ _, rfl⟩
  case rehearsed =>
    intro r s hr hs
    have h := createRequest_creates false ns d
    have h' := createRequest_creates true ns d
    rw [show createRequest false ns d = .ok r from hr] at h
    rw [show createRequest true ns d = .ok s from hs] at h'
    cases h with
    | sendable _ hn hk hb =>
      cases h' with
      | sendable _ hn' hk' hb' =>
        obtain rfl := Option.some_inj.1 (hk.symm.trans hk')
        rw [String.append_assoc] at hb hb'
        obtain ⟨t, ht, rfl⟩ := Kube.Request.build?_slash (head?_collection ns _) hb
        obtain ⟨u, hu, rfl⟩ := Kube.Request.build?_slash (head?_collection ns _) hb'
        have earnest : (collection ns ++ ("?" ++ if false = true then "&dryRun=All" else "")).toList =
            (collection ns ++ "?").toList := by simp
        have tried : (collection ns ++ ("?" ++ if true = true then "&dryRun=All" else "")).toList =
            (collection ns ++ "?").toList ++ "&dryRun=All".toList := by simp
        have hides : '#' ∈ (collection ns ++ "?").toList ↔ '#' ∈ ns.toList := by
          simp [toList_collection]
        rw [earnest] at ht
        rw [tried] at hu
        obtain ⟨path, query⟩ := Http.Target.ofChars_append (by simp) (by decide) ht hu
        simp only [hides, String.ofList_toList] at query
        exact ⟨rfl, path, rfl, query⟩
  case scaled =>
    intro r hr
    have h := applyRequest_scales ns d
    rw [hr] at h
    cases h with
    | @sendable _ n hn h0 _ hb =>
      rw [item, String.append_assoc, String.append_assoc] at hb
      obtain ⟨t, -, rfl⟩ := Kube.Request.build?_slash (head?_collection ns _) hb
      exact ⟨rfl, n, _, h0, hn, rfl, replicasPatch_merged n⟩

end MultiCluster.Deployment
