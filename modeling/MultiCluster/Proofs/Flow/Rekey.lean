import MultiCluster.Proofs.Flow.Asks
import MultiCluster.Proofs.Store.Rekey
import Mathlib.Data.List.Forall2

/-! Two programs that ask the same questions but for the kubeconfigs in them, and go on alike when
they are answered alike. -/
namespace MultiCluster

variable {α α' β γ δ : Type} {key : String → String}

namespace Call

/-- The question with other kubeconfigs in it. -/
def rekey (key : String → String) : Call → Call
  | registry c => registry (c.rekey key)
  | connect m => connect (m.rekey key)
  | c => c

/-- The answer with other kubeconfigs in it. -/
def rekeyReply (key : String → String) : (c : Call) → c.Reply → (c.rekey key).Reply
  | registry c, r => c.rekeyReply key r
  | freshId, r => r
  | clock, r => r
  | connect _, r => r
  | nodes _, r => r
  | usage .., r => r
  | version _, r => r
  | access _, r => r
  | send .., r => r
  | monitor _, r => r
  | query .., r => r

/-- Whether there is no kubeconfig in a question and in what answers it. -/
def IsOpen : Call → Prop
  | registry (.patch ..) => True
  | registry _ => False
  | connect _ => False
  | _ => True

end Call

/-- What was said, with other kubeconfigs. -/
def Exchange.rekey (key : String → String) (e : Exchange) : Exchange :=
  ⟨e.call.rekey key, e.call.rekeyReply key e.reply⟩

/-- The surroundings with other kubeconfigs. -/
def Surroundings.rekey (key : String → String) (w : Surroundings) : Surroundings :=
  ⟨w.store.rekey key, w.past.map (.rekey key)⟩

/-- Two moves that are alike: a client for other kubeconfigs is had, or not had, as for those in
their place, and all else is answered in the same way. -/
structure Turn.Rekeys (key : String → String) (t t' : Turn) : Prop where
  pick : t'.pick = t.pick
  now : t'.now = t.now
  fault : t'.fault = t.fault
  connect : ∀ m, t'.outside (.connect (m.rekey key)) = t.outside (.connect m)
  others : ∀ c, (∀ r, c ≠ .registry r) → (∀ m, c ≠ .connect m) → t'.outside c = t.outside c

theorem Turn.Rekeys.answer {t t' : Turn} (h : t.Rekeys key t') (c : Call) (s : Store) :
    t'.answer (c.rekey key) (s.rekey key) =
      (c.rekeyReply key (t.answer c s).1, (t.answer c s).2.rekey key) := by
  cases c with
  | registry c =>
    simp only [Call.rekey, Turn.answer, h.fault, h.now]
    cases t.fault with
    | some e => exact congrArg (·, s.rekey key) (c.rekeyReply_fail e).symm
    | none => exact Store.serve_rekey t.now c s
  | connect m => exact congrArg (·, s.rekey key) (h.connect m)
  | _ => exact congrArg (·, s.rekey key) (h.others _ (by rintro _ ⟨⟩) (by rintro _ ⟨⟩))

/-- Surroundings with other kubeconfigs answer alike and go on alike. -/
theorem Turn.Rekeys.serve {t t' : Turn} (h : t.Rekeys key t') (c : Call) (w : Surroundings) :
    t'.serve (c.rekey key) (w.rekey key) =
      (c.rekeyReply key (t.serve c w).1, (t.serve c w).2.rekey key) := by
  have hs (t : Turn) (c : Call) (w : Surroundings) : t.serve c w = ((t.answer c w.store).1,
      ⟨(t.answer c w.store).2, w.past ++ [⟨c, (t.answer c w.store).1⟩]⟩) := rfl
  have ha := h.answer c w.store
  rw [hs, hs]
  simp only [Surroundings.rekey, ha, List.map_append, List.map_cons, List.map_nil, Exchange.rekey]

namespace Job

/-- Whether a program asks what the other one asks with other kubeconfigs, and comes to a value that
goes with the other one. -/
inductive Matches (key : String → String) (R : α → α' → Prop) : Job α → Job α' → Prop where
  | done {a : α} {a' : α'} (h : R a a') : Matches key R (.done a) (.done a')
  | ask (c : Call) {next : c.Reply → Job α} {next' : (c.rekey key).Reply → Job α'}
      (h : ∀ r, Matches key R (next r) (next' (c.rekeyReply key r))) :
      Matches key R (.ask c next) (.ask (c.rekey key) next')

theorem Matches.bind {R : α → α' → Prop} {S : β → γ → Prop} {j : Job α} {j' : Job α'}
    {f : α → Job β} {f' : α' → Job γ} (h : j.Matches key R j')
    (hf : ∀ a a', R a a' → (f a).Matches key S (f' a')) :
    (j.bind f).Matches key S (j'.bind f') := by
  induction h with
  | done h => exact hf _ _ h
  | ask c _ ih => exact .ask c ih

theorem Matches.mono {R S : α → α' → Prop} {j : Job α} {j' : Job α'} (h : j.Matches key R j')
    (hRS : ∀ a a', R a a' → S a a') : j.Matches key S j' := by
  induction h with
  | done h => exact .done (hRS _ _ h)
  | ask c _ ih => exact .ask c ih

/-- A program that asks for nothing with a kubeconfig in it is matched by itself. -/
theorem Asks.matches {j : Job α} (h : j.Asks Call.IsOpen) : j.Matches key Eq j := by
  induction j with
  | done a => exact .done rfl
  | ask c next ih =>
    have hn (r : c.Reply) := ih r (h.2 r)
    have hc := h.1
    cases c with
    | registry c =>
      cases c with
      | patch id p => exact .ask (.registry (.patch id p)) hn
      | _ => exact hc.elim
    | connect m => exact hc.elim
    | freshId => exact .ask .freshId hn
    | clock => exact .ask .clock hn
    | nodes k => exact .ask (.nodes k) hn
    | usage k node => exact .ask (.usage k node) hn
    | version k => exact .ask (.version k) hn
    | access k => exact .ask (.access k) hn
    | send k r => exact .ask (.send k r) hn
    | monitor endpoint => exact .ask (.monitor endpoint) hn
    | query k range => exact .ask (.query k range) hn

end Job

namespace Flow

/-- Whether a program with pools matches another one, with results of jobs and a value that go with
those of the other one. -/
inductive Matches (key : String → String) (P : β → γ → Prop) (R : α → α' → Prop) :
    Flow β α → Flow γ α' → Prop where
  | done {a : α} {a' : α'} (h : R a a') : Matches key P R (.done a) (.done a')
  | ask (c : Call) {next : c.Reply → Flow β α} {next' : (c.rekey key).Reply → Flow γ α'}
      (h : ∀ r, Matches key P R (next r) (next' (c.rekeyReply key r))) :
      Matches key P R (.ask c next) (.ask (c.rekey key) next')
  | pool (window : Window) (limit : Nat) {jobs : List (Job β)} {jobs' : List (Job γ)}
      {next : List β → Flow β α} {next' : List γ → Flow γ α'}
      (hj : List.Forall₂ (Job.Matches key P) jobs jobs')
      (h : ∀ bs bs', List.Forall₂ P bs bs' → Matches key P R (next bs) (next' bs')) :
      Matches key P R (.pool window limit jobs next) (.pool window limit jobs' next')

end Flow

namespace Job

variable {R : α → α' → Prop} {j : Job α} {j' : Job α'}

theorem Matches.isSome_value? (h : j.Matches key R j') :
    j'.value?.isSome = j.value?.isSome := by
  cases h <;> rfl

theorem Matches.call? (h : j.Matches key R j') : j'.call? = j.call?.map (.rekey key) := by
  cases h <;> rfl

theorem Matches.value? (h : j.Matches key R j') : Option.Rel R j.value? j'.value? := by
  cases h with
  | done h => exact .some h
  | ask c h => exact .none

/-- One answer leaves a program and the one that it matches alike. -/
theorem Matches.step {t t' : Turn} (ht : t.Rekeys key t') (h : j.Matches key R j')
    (w : Surroundings) :
    (j.step t.serve w).1.Matches key R (j'.step t'.serve (w.rekey key)).1 ∧
      (j'.step t'.serve (w.rekey key)).2 = (j.step t.serve w).2.rekey key := by
  cases h with
  | done h => exact ⟨.done h, rfl⟩
  | @ask c next next' h =>
    have hs : (Job.ask (c.rekey key) next').step t'.serve (w.rekey key) =
        (next' (t'.serve (c.rekey key) (w.rekey key)).1,
          (t'.serve (c.rekey key) (w.rekey key)).2) := rfl
    rw [hs, ht.serve]
    exact ⟨h _, rfl⟩

end Job

theorem forall₂_getElem? {R : α → α' → Prop} {xs : List α} {ys : List α'}
    (h : List.Forall₂ R xs ys) (i : Nat) : Option.Rel R xs[i]? ys[i]? := by
  induction h generalizing i with
  | nil => exact .none
  | cons hxy _ ih =>
    cases i with
    | zero => exact .some hxy
    | succ i => simpa using ih i

theorem forall₂_set {R : α → α' → Prop} {xs : List α} {ys : List α'}
    (h : List.Forall₂ R xs ys) (i : Nat) {x : α} {y : α'} (hxy : R x y) :
    List.Forall₂ R (xs.set i x) (ys.set i y) := by
  induction h generalizing i with
  | nil => exact .nil
  | cons h hs ih =>
    cases i with
    | zero => exact .cons hxy hs
    | succ i => exact .cons h (ih i)

theorem forall₂_map_same {R : β → γ → Prop} {f : α → β} {g : α → γ} (h : ∀ x, R (f x) (g x))
    (xs : List α) : List.Forall₂ R (xs.map f) (xs.map g) := by
  rw [List.forall₂_map_left_iff, List.forall₂_map_right_iff, List.forall₂_same]
  exact fun x _ => h x

theorem forall₂_eq_map {f : α → β} {xs : List α} {ys : List β}
    (h : List.Forall₂ (fun x y => y = f x) xs ys) : ys = xs.map f := by
  induction h with
  | nil => rfl
  | cons hxy _ ih => rw [hxy, ih, List.map_cons]

namespace Flow

variable {P : β → γ → Prop} {R : α → α' → Prop} {jobs : List (Job β)} {jobs' : List (Job γ)}
  {f : Flow β α} {f' : Flow γ α'}

private theorem rel_results? (h : List.Forall₂ (Job.Matches key P) jobs jobs') :
    Option.Rel (List.Forall₂ P) (results? jobs) (results? jobs') := by
  induction h with
  | nil => exact .some .nil
  | @cons j j' js js' hj _ ih =>
    have hv := hj.value?
    simp only [results?, List.mapM_cons] at ih ⊢
    generalize j.value? = v, j'.value? = v' at hv ⊢
    generalize js.mapM Job.value? = vs, js'.mapM Job.value? = vs' at ih ⊢
    cases hv with
    | none => exact .none
    | some hb =>
      cases ih with
      | none => exact .none
      | some hbs => exact .some (.cons hb hbs)

theorem Matches.settle (h : f.Matches key P R f') : f.settle.Matches key P R f'.settle := by
  induction h with
  | done h => exact .done h
  | ask c h => exact .ask c h
  | @pool window limit jobs jobs' next next' hj h ih =>
    have hr := rel_results? hj
    unfold Flow.settle
    generalize results? jobs = bs, results? jobs' = bs' at hr ⊢
    cases hr with
    | none => exact .pool window limit hj h
    | some hbs => exact ih _ _ hbs

-- Which jobs may run depends on nothing but which of them are done.
private theorem runnable_eq (h : List.Forall₂ (Job.Matches key P) jobs jobs') (window : Window)
    (limit : Nat) : runnable window limit jobs' = runnable window limit jobs := by
  have ho (i : Nat) : (jobs'[i]?.map fun j => j.value?.isNone) =
      jobs[i]?.map fun j => j.value?.isNone := by
    have hi := forall₂_getElem? h i
    generalize jobs[i]? = j, jobs'[i]? = j' at hi ⊢
    cases hi with
    | none => rfl
    | some hj => simp only [Option.map_some, ← Option.not_isSome, hj.isSome_value?]
  have hf : (jobs'.takeWhile fun j => j.value?.isSome).length =
      (jobs.takeWhile fun j => j.value?.isSome).length := by
    clear ho
    induction h with
    | nil => rfl
    | cons hj _ ih =>
      rw [List.takeWhile_cons, List.takeWhile_cons, hj.isSome_value?]
      split <;> simp [ih]
  cases window <;> simp only [runnable, ho, hf, h.length_eq]

private theorem waiting_eq (h : f.Matches key P R f') :
    f'.waiting = f.waiting.map fun q => (q.1, q.2.rekey key) := by
  cases h with
  | done h => rfl
  | ask c h => rfl
  | @pool window limit jobs jobs' next next' hj h =>
    simp only [waiting, runnable_eq hj, List.map_filterMap]
    congr 1
    funext i
    have hi := forall₂_getElem? hj i
    generalize jobs[i]? = j, jobs'[i]? = j' at hi ⊢
    cases hi with
    | none => rfl
    | some hj => simp [hj.call?, Function.comp_def]

/-- An answer to the question at a position leaves a program and the one that it matches alike. -/
theorem Matches.step {t t' : Turn} (ht : t.Rekeys key t') (h : f.Matches key P R f')
    (position : Nat) (w : Surroundings) :
    (f.step t.serve position w).1.Matches key P R
        (f'.step t'.serve position (w.rekey key)).1 ∧
      (f'.step t'.serve position (w.rekey key)).2 =
        (f.step t.serve position w).2.rekey key := by
  cases h with
  | done h => exact ⟨.done h, rfl⟩
  | @ask c next next' h =>
    have hs : (Flow.ask (c.rekey key) next').step t'.serve position (w.rekey key) =
        ((next' (t'.serve (c.rekey key) (w.rekey key)).1).settle,
          (t'.serve (c.rekey key) (w.rekey key)).2) := rfl
    rw [hs, ht.serve]
    exact ⟨(h _).settle, rfl⟩
  | @pool window limit jobs jobs' next next' hj h =>
    have hi := forall₂_getElem? hj position
    simp only [Flow.step]
    generalize jobs[position]? = j, jobs'[position]? = j' at hi ⊢
    cases hi with
    | none => exact ⟨.pool window limit hj h, rfl⟩
    | some hm =>
      obtain ⟨hm, hw⟩ := hm.step ht w
      exact ⟨Matches.settle (.pool window limit (forall₂_set hj position hm) h), hw⟩

/-- One move of the surroundings leaves a program and the one that it matches alike. -/
theorem Matches.turn {t t' : Turn} (ht : t.Rekeys key t') (h : f.Matches key P R f')
    (w : Surroundings) :
    (f.turn t w).1.Matches key P R (f'.turn t' (w.rekey key)).1 ∧
      (f'.turn t' (w.rekey key)).2 = (f.turn t w).2.rekey key := by
  rw [Flow.turn, Flow.turn, waiting_eq h, ht.pick, List.length_map, List.getElem?_map]
  cases f.waiting[t.pick % f.waiting.length]? with
  | none => exact ⟨h, rfl⟩
  | some q => exact h.step ht q.1 w

theorem Matches.value? (h : f.Matches key P R f') : Option.Rel R f.value? f'.value? := by
  cases h with
  | done h => exact .some h
  | ask c h => exact .none
  | pool window limit hj h => exact .none

theorem matches_ofJob {j : Job α} {j' : Job α'} (h : j.Matches key R j') :
    (ofJob (β := β) j).Matches key P R (ofJob (β := γ) j') := by
  induction h with
  | done h => exact .done h
  | ask c h ih => exact .ask c ih

theorem Matches.map {S : δ → δ → Prop} {g : α → δ} {g' : α' → δ} (h : f.Matches key P R f')
    (hg : ∀ a a', R a a' → S (g a) (g' a')) : (f.map g).Matches key P S (f'.map g') := by
  induction h with
  | done h => exact .done (hg _ _ h)
  | ask c h ih => exact .ask c ih
  | pool window limit hj h ih => exact .pool window limit hj ih

end Flow
end MultiCluster
