import MultiCluster.Store

/-! Members with other kubeconfigs in place of their own: a store does the same with them. -/
namespace MultiCluster

/-- What a cluster is registered with, but for the kubeconfig, which is another one. -/
def Registration.rekey (key : String → String) (r : Registration) : Registration :=
  { r with kubeconfig := key r.kubeconfig }

/-- The member with another kubeconfig. -/
def Member.rekey (key : String → String) (m : Member) : Member :=
  { m with kubeconfig := key m.kubeconfig }

variable {key : String → String}

namespace Member

@[simp] theorem id_rekey (m : Member) : (m.rekey key).id = m.id := rfl

theorem rekey_new (id : String) (r : Registration) (createdAt : Option String) :
    (new id r createdAt).rekey key = new id (r.rekey key) createdAt := rfl

/-- The kubeconfig is not shown in words. -/
theorem describe_rekey (m : Member) : (m.rekey key).describe = m.describe := rfl

end Member

namespace Store

/-- The store with other kubeconfigs. -/
def rekey (key : String → String) (s : Store) : Store where
  members := s.members.map (.rekey key)
  ascending := List.pairwise_map.2 s.ascending

theorem members_rekey (s : Store) : (s.rekey key).members = s.members.map (.rekey key) := rfl

theorem ext {s t : Store} (h : s.members = t.members) : s = t := by
  cases s
  cases t
  cases h
  rfl

theorem get?_rekey (s : Store) (id : String) :
    (s.rekey key).get? id = (s.get? id).map (.rekey key) := by
  simp only [get?, rekey, List.find?_map, Function.comp_def, Member.id_rekey]

private theorem putMember_rekey (m : Member) (ms : List Member) :
    putMember (m.rekey key) (ms.map (.rekey key)) = (putMember m ms).map (.rekey key) := by
  induction ms with
  | nil => rfl
  | cons n ms ih =>
    simp only [List.map_cons, putMember, Member.id_rekey, ih]
    split
    · rfl
    · split <;> rfl

theorem put_rekey (s : Store) (m : Member) :
    (s.rekey key).put (m.rekey key) = (s.put m).rekey key :=
  ext (putMember_rekey m s.members)

private theorem patchMember_rekey (id : String) (p : Status.Patch) (m : Member) :
    patchMember id p (m.rekey key) = (patchMember id p m).rekey key := by
  unfold patchMember
  rw [Member.id_rekey]
  split <;> rfl

theorem patch_rekey (s : Store) (id : String) (p : Status.Patch) :
    (s.rekey key).patch id p = (s.patch id p).rekey key := by
  apply ext
  simp only [patch, rekey, List.map_map, Function.comp_def, patchMember_rekey]

end Store

namespace Registry.Call

/-- The call with another kubeconfig, if it is one to register a cluster. -/
def rekey (key : String → String) : Call → Call
  | list => list
  | get id => get id
  | create id r => create id (r.rekey key)
  | patch id p => patch id p

/-- The answer with other kubeconfigs in it. -/
def rekeyReply (key : String → String) : (c : Call) → c.Reply → (c.rekey key).Reply
  | list, r => r.map (·.map (.rekey key))
  | get _, r => r.map (.rekey key)
  | create .., r => r.map (.rekey key)
  | patch .., r => r

theorem rekeyReply_fail (c : Call) (e : Error) :
    c.rekeyReply key (c.fail e) = (c.rekey key).fail e := by
  cases c <;> rfl

end Registry.Call

/-- A store with other kubeconfigs gives the same answers with other kubeconfigs, and is changed in
the same way. -/
theorem Store.serve_rekey (now : String) (c : Registry.Call) (s : Store) :
    Store.serve now (c.rekey key) (s.rekey key) =
      (c.rekeyReply key (Store.serve now c s).1, (Store.serve now c s).2.rekey key) := by
  cases c with
  | list => rfl
  | get id =>
    simp only [Registry.Call.rekey, serve, get?_rekey]
    cases s.get? id <;> rfl
  | create id r =>
    simp only [Registry.Call.rekey, serve, get?_rekey]
    cases s.get? id with
    | some m => rfl
    | none =>
      simp only [Option.map_none, ← Member.rekey_new, put_rekey]
      rfl
  | patch id p =>
    simp only [Registry.Call.rekey, serve, get?_rekey]
    cases s.get? id with
    | some m =>
      simp only [Option.map_some, patch_rekey]
      rfl
    | none => rfl

end MultiCluster
