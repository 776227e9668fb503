import MultiCluster.Json.Printer
import MultiCluster.Proofs.Web.Rekey

/-! The service over HTTP next to its passes, run twice: with kubeconfigs, and with other ones in
their place that open the same clusters. Nobody who sees what is answered and reported can tell one
run from the other. -/
namespace MultiCluster

/-- The plain move takes every kubeconfig for every other. -/
theorem Turn.rekeys_plain (key : String → String) : Turn.plain.Rekeys key Turn.plain where
  pick := rfl
  now := rfl
  fault := rfl
  connect _ := rfl
  others _ _ _ := rfl

namespace Web

variable {α : Type} {key : String → String}

/-- What the service is at: the answer to a request, or a pass over the clusters. -/
inductive Task where
  | request (program : Handler)
  | pass (program : Flow Sweep.Outcome (Except Error Sweep.Report))

namespace Task

/-- Lets the surroundings move once. -/
def turn (t : Turn) : Task → StateM Surroundings Task
  | request f => fun w => ((f.turn t w).map request id)
  | pass f => fun w => ((f.turn t w).map pass id)

/-- The answer to a request, once there is one. -/
def answer? : Task → Option Answer
  | request f => f.value?
  | pass _ => none

/-- What a pass reports, once it is over. -/
def report? : Task → Option (Except Error Sweep.Report)
  | request _ => none
  | pass f => f.value?

/-- Whether two tasks go on alike, whatever the kubeconfigs they come across. -/
inductive Alike (key : String → String) : Task → Task → Prop where
  | request {f f' : Handler} (h : f.Alike key f') : Alike key (.request f) (.request f')
  | pass {f f' : Flow Sweep.Outcome (Except Error Sweep.Report)} (h : f.Matches key Eq Eq f') :
      Alike key (.pass f) (.pass f')

variable {k k' : Task}

/-- One move leaves two such tasks alike, and what surrounds them too. -/
theorem Alike.turn {t t' : Turn} (ht : t.Rekeys key t') (h : Alike key k k') (w : Surroundings) :
    Alike key (k.turn t w).1 (k'.turn t' (w.rekey key)).1 ∧
      (k'.turn t' (w.rekey key)).2 = (k.turn t w).2.rekey key := by
  cases h with
  | request h =>
    obtain ⟨hf, hw⟩ := Flow.Matches.turn ht h w
    exact ⟨.request hf, hw⟩
  | pass h =>
    obtain ⟨hf, hw⟩ := Flow.Matches.turn ht h w
    exact ⟨.pass hf, hw⟩

private theorem eq_of_rel {o o' : Option α} (h : Option.Rel Eq o o') : o' = o := by
  cases h with
  | none => rfl
  | some h => rw [h]

theorem Alike.answer? (h : Alike key k k') : k'.answer? = k.answer? := by
  cases h with
  | request h => exact eq_of_rel h.value?
  | pass h => rfl

theorem Alike.report? (h : Alike key k k') : k'.report? = k.report? := by
  cases h with
  | request h => rfl
  | pass h => exact eq_of_rel h.value?

end Task

/-- Requests and passes that have begun, finished or not, and the surroundings they share. -/
structure Session where
  tasks : List Task
  surroundings : Surroundings

namespace Session

/-- A request comes in, a pass begins, or one of the tasks gets an answer. -/
inductive Event where
  | request (limit : Nat) (r : Request)
  | pass (plan : Sweep.Plan)
  | answer (task : Nat) (turn : Turn)

/-- Nothing has begun. -/
def idle (s : Store) : Session := ⟨[], ⟨s, []⟩⟩

def store (x : Session) : Store := x.surroundings.store

/-- What comes of one event. -/
def step (x : Session) : Event → Session
  | .request limit r => { x with tasks := x.tasks ++ [.request (respond limit r)] }
  | .pass plan => { x with tasks := x.tasks ++ [.pass (Sweep.pass plan)] }
  | .answer i t =>
    match x.tasks[i]? with
    | none => x
    | some k => ⟨x.tasks.set i (k.turn t x.surroundings).1, (k.turn t x.surroundings).2⟩

/-- What comes of events one after the other. -/
def run (x : Session) (events : List Event) : Session := events.foldl step x

/-- What is submitted in an event. -/
def Event.submission? : Event → Option Service.Submission
  | request _ r => r.submission?
  | _ => none

/-- Two events that are the same but for the kubeconfigs. -/
inductive Event.Rekeys (key : String → String) : Event → Event → Prop where
  | request (limit : Nat) {r r' : Request} (h : r.Rekeys key r') :
      Rekeys key (.request limit r) (.request limit r')
  | pass (plan : Sweep.Plan) : Rekeys key (.pass plan) (.pass plan)
  | answer (task : Nat) {t t' : Turn} (h : t.Rekeys key t') :
      Rekeys key (.answer task t) (.answer task t')

/-- The patches that were asked for, each with the id of its cluster. -/
def patches (x : Session) : List (String × Status.Patch) :=
  x.surroundings.past.filterMap fun e =>
    match e.call with
    | .registry (.patch id p) => some (id, p)
    | _ => none

/-- Two sessions where all is the same that anybody gets to see: answers, reports, patches of
statuses and members in words. What is kept, asked and heard differs in the kubeconfigs only. -/
structure Concealed (key : String → String) (x x' : Session) : Prop where
  answers : x'.tasks.map Task.answer? = x.tasks.map Task.answer?
  reports : x'.tasks.map Task.report? = x.tasks.map Task.report?
  patches : x'.patches = x.patches
  shown : x'.store.members.map Member.describe = x.store.members.map Member.describe
  store : x'.store = x.store.rekey key
  past : x'.surroundings.past = x.surroundings.past.map (.rekey key)

/-- Two sessions at tasks that go on alike. -/
structure Alike (key : String → String) (x x' : Session) : Prop where
  tasks : List.Forall₂ (Task.Alike key) x.tasks x'.tasks
  surroundings : x'.surroundings = x.surroundings.rekey key

theorem alike_idle (s : Store) : Alike key (idle s) (idle (s.rekey key)) where
  tasks := .nil
  surroundings := rfl

namespace Alike

variable {x x' : Session}

/-- One event leaves two sessions alike. -/
theorem step (h : Alike key x x') {e e' : Event} (he : e.Rekeys key e')
    (hb : ∀ s, e.submission? = some s → Service.KeepsBlank key s.kubeconfig) :
    Alike key (x.step e) (x'.step e') := by
  cases he with
  | request limit hr =>
    refine ⟨?_, h.surroundings⟩
    exact List.rel_append h.tasks (.cons (.request (alike_respond limit hr hb)) .nil)
  | pass plan =>
    refine ⟨?_, h.surroundings⟩
    exact List.rel_append h.tasks (.cons (.pass (Sweep.matches_pass plan)) .nil)
  | answer i ht =>
    -- both sessions have a task at this position, or neither has
    have hi := forall₂_getElem? h.tasks i
    simp only [Session.step]
    generalize x.tasks[i]? = k, x'.tasks[i]? = k' at hi ⊢
    cases hi with
    | none => exact h
    | some hk =>
      obtain ⟨hk, hw⟩ := hk.turn ht x.surroundings
      rw [← h.surroundings] at hk hw
      exact ⟨forall₂_set h.tasks i hk, hw⟩

/-- So do events one after the other. -/
theorem run (h : Alike key x x') {events events' : List Event}
    (he : List.Forall₂ (Event.Rekeys key) events events')
    (hb : ∀ s ∈ events.filterMap Event.submission?, Service.KeepsBlank key s.kubeconfig) :
    Alike key (x.run events) (x'.run events') := by
  induction he generalizing x x' with
  | nil => exact h
  | @cons e e' events events' he _ ih =>
    refine ih (h.step he fun s hs => hb s ?_) fun s hs => hb s ?_
    · exact List.mem_filterMap.2 ⟨e, List.mem_cons_self, hs⟩
    · obtain ⟨d, hd, hs⟩ := List.mem_filterMap.1 hs
      exact List.mem_filterMap.2 ⟨d, List.mem_cons_of_mem e hd, hs⟩

theorem store (h : Alike key x x') : x'.store = x.store.rekey key :=
  congrArg Surroundings.store h.surroundings

theorem patches (h : Alike key x x') : x'.patches = x.patches := by
  simp only [Session.patches, h.surroundings, Surroundings.rekey, List.filterMap_map]
  congr 1
  funext e
  obtain ⟨c, r⟩ := e
  cases c with
  | registry c => cases c <;> rfl
  | _ => rfl

end Alike

/-- However requests are answered and passes go on side by side, over whatever members: with other
kubeconfigs, the same is answered and reported, and the same statuses are patched. Blank ones must
be blank again, and a cluster to be registered must not get a blank one in place of another. -/
theorem run_concealed {s : Store} {events events' : List Event}
    (hkey : ∀ k, (Text.trim k).isEmpty → (Text.trim (key k)).isEmpty)
    (hsub : ∀ x ∈ events.filterMap Event.submission?,
      (Text.trim (key x.kubeconfig)).isEmpty → (Text.trim x.kubeconfig).isEmpty)
    (he : List.Forall₂ (Event.Rekeys key) events events') :
    Concealed key ((idle s).run events) ((idle (s.rekey key)).run events') := by
  have h := (alike_idle s).run he fun x hx => Bool.eq_iff_iff.2 ⟨hsub x hx, hkey x.kubeconfig⟩
  have tasks {β : Type} {f : Task → β} (hf : ∀ k k', Task.Alike key k k' → f k' = f k) :
      ((idle (s.rekey key)).run events').tasks.map f = ((idle s).run events).tasks.map f := by
    refine (forall₂_eq_map ?_).trans (List.map_id _)
    rw [List.forall₂_map_left_iff, List.forall₂_map_right_iff]
    exact h.tasks.imp hf
  exact {
    answers := tasks fun _ _ => Task.Alike.answer?
    reports := tasks fun _ _ => Task.Alike.report?
    patches := h.patches
    shown := by
      rw [h.store, Store.members_rekey, List.map_map]
      exact List.map_congr_left fun m _ => m.describe_rekey
    store := h.store
    past := congrArg Surroundings.past h.surroundings }

/-- A request to register a cluster with a kubeconfig. -/
def registering (kubeconfig : String) : Request where
  method := "POST"
  path := "/api/v1alpha1/clusters"
  query := ""
  contentType := some "application/json"
  body := (Json.ofTexts [("displayname", "edge"), ("kubeconfig", kubeconfig)]).render

/-- A cluster is registered, and then there is a pass. -/
def registration (kubeconfig : String) : List Event :=
  [.request 1 (registering kubeconfig)] ++ List.replicate 8 (.answer 0 .plain) ++
    [.pass ⟨.all, 10, 2⟩] ++ List.replicate 8 (.answer 1 .plain)

theorem rekeys_registration {k k' : String} {s : Service.Submission}
    (h : (registering k).submission? = some s)
    (h' : (registering k').submission? = some (s.rekey key)) :
    List.Forall₂ (Event.Rekeys key) (registration k) (registration k') := by
  have answers (i : Nat) : List.Forall₂ (Event.Rekeys key) (List.replicate 8 (.answer i .plain))
      (List.replicate 8 (.answer i .plain)) := by
    refine List.forall₂_same.2 fun e he => ?_
    rw [List.eq_of_mem_replicate he]
    exact .answer i (Turn.rekeys_plain key)
  have request : Request.Rekeys key (registering k) (registering k') :=
    @Request.Rekeys.registers key (registering k) (registering k').body s h h'
  refine List.rel_append (List.rel_append (List.rel_append ?_ (answers 0)) ?_) (answers 1)
  · exact .cons (.request 1 request) .nil
  · exact .cons (.pass _) .nil

/-- Nobody can tell whether the kubeconfig is `x` or a longer one. -/
theorem run_concealed_of_longer :
    let key (k : String) := if (Text.trim k).isEmpty then k else "other " ++ k
    (∀ k, (Text.trim k).isEmpty → (Text.trim (key k)).isEmpty) ∧
      (∀ x ∈ (registration "x").filterMap Event.submission?,
        (Text.trim (key x.kubeconfig)).isEmpty → (Text.trim x.kubeconfig).isEmpty) ∧
      List.Forall₂ (Event.Rekeys key) (registration "x") (registration "other x") ∧
      Concealed key ((idle .empty).run (registration "x"))
        ((idle (Store.empty.rekey key)).run (registration "other x")) := by
  intro key
  have hkey (k : String) (h : (Text.trim k).isEmpty) : (Text.trim (key k)).isEmpty := by
    rw [show key k = k from if_pos h]
    exact h
  have hsub : ∀ x ∈ (registration "x").filterMap Event.submission?,
      (Text.trim (key x.kubeconfig)).isEmpty → (Text.trim x.kubeconfig).isEmpty := by
    decide +kernel
  have he : List.Forall₂ (Event.Rekeys key) (registration "x") (registration "other x") :=
    rekeys_registration (s := ⟨"edge", "x", ""⟩) (by decide +kernel) (by decide +kernel)
  exact ⟨hkey, hsub, he, run_concealed hkey hsub he⟩

private theorem trim_space (k : String) : Text.trim (" " ++ k) = Text.trim k := by
  simp only [Text.trim, Text.trimChars, Text.trimStart, String.toList_append]
  rfl

/-- That other kubeconfigs are had, each in place of one only, and blank ones in place of blank ones,
is not enough: where a blank one takes the place of `x`, a registration is refused. -/
theorem not_concealed_where_blank :
    ¬ ∀ key : String → String, Function.Injective key →
      (∀ k, (Text.trim k).isEmpty → (Text.trim (key k)).isEmpty) →
      ∀ (s : Store) (events events' : List Event), List.Forall₂ (Event.Rekeys key) events events' →
        Concealed key ((idle s).run events) ((idle (s.rekey key)).run events') := by
  intro concealed
  let key (k : String) := if k = "x" then "" else " " ++ k
  have inj : Function.Injective key := by
    intro a b h
    dsimp only [key] at h
    split at h <;> split at h
    · simp only [*]
    · simpa using congrArg String.length h.symm
    · simpa using congrArg String.length h
    · exact (String.append_right_inj " ").1 h
  have hkey (k : String) (h : (Text.trim k).isEmpty) : (Text.trim (key k)).isEmpty := by
    dsimp only [key]
    split
    · rfl
    · rwa [trim_space]
  have he : List.Forall₂ (Event.Rekeys key) (registration "x") (registration "") :=
    rekeys_registration (s := ⟨"edge", "x", ""⟩) (by decide +kernel) (by decide +kernel)
  have hstatus := congrArg (List.map fun a => a.map Answer.status)
    (concealed key inj hkey .empty _ _ he).answers
  revert hstatus
  decide +kernel

end Session
end Web
end MultiCluster
