import MultiCluster.Proofs.Text.Split
import MultiCluster.Registry.Remote
import Mathlib.Data.List.TakeWhile
import Mathlib.Data.String.Basic

/-! The requests of a registry that is kept by an API server. -/
namespace MultiCluster

namespace Http

/-- A character of a path that does not end it. -/
def isInnerChar (c : Char) : Bool := Target.isPathChar c && c != '?' && c != '#'

/-- Whether a text is a path: it starts with a slash, and all its characters may stand in a path. -/
structure IsPath (path : String) : Prop where
  slash : path.toList.head? = some '/'
  chars : path.toList.all isInnerChar = true
  length : path.utf8ByteSize < Address.maxLength

namespace IsPath

variable {path : String}

private theorem parse_of_target (h : IsPath path) (tail : List Char)
    {target : Target} (hl : (path ++ String.ofList tail).utf8ByteSize ≤ Address.maxLength)
    (ht : Target.ofChars (path.toList ++ tail) = .ok target) :
    Address.parse (path ++ String.ofList tail) = .ok ⟨none, "", target⟩ := by
  obtain ⟨c, cs, hc⟩ : ∃ c cs, path.toList = c :: cs := by
    cases hc : path.toList with
    | nil => simpa [hc] using h.slash
    | cons c cs => exact ⟨c, cs, rfl⟩
  have hs : c = '/' := by simpa [hc] using h.slash
  subst hs
  have hl' : ¬ (path ++ String.ofList tail).utf8ByteSize > Address.maxLength := Nat.not_lt.2 hl
  rw [hc, List.cons_append] at ht
  simp only [Address.parse, hl', String.toList_append, hc, String.toList_ofList, List.cons_append,
    ht]
  rfl

private theorem inner (h : IsPath path) {c : Char} (hc : c ∈ path.toList) :
    Target.isPathChar c = true ∧ c ≠ '?' ∧ c ≠ '#' := by
  simpa [isInnerChar, and_assoc] using List.all_eq_true.1 h.chars c hc

private theorem all_isPathChar (h : IsPath path) : path.toList.all Target.isPathChar = true :=
  List.all_eq_true.2 fun _ hc => (h.inner hc).1

theorem parse (h : IsPath path) : Address.parse path = .ok ⟨none, "", ⟨path, none⟩⟩ := by
  have hw : path.toList.takeWhile (fun c => c != '?' && c != '#') = path.toList :=
    List.takeWhile_eq_self_iff.2 fun c hc => by simp [h.inner hc]
  have ha := h.all_isPathChar
  have ht : Target.ofChars (path.toList ++ []) = .ok ⟨path, none⟩ := by
    simp [Target.ofChars, hw, ha]
  simpa using h.parse_of_target [] (by simpa using h.length.le) ht

theorem parse_query (h : IsPath path) :
    Address.parse (path ++ "?") = .ok ⟨none, "", ⟨path, some ""⟩⟩ := by
  have hw : (path.toList ++ ['?']).takeWhile (fun c => c != '?' && c != '#') = path.toList := by
    rw [List.takeWhile_append_of_pos fun c hc => by simp [h.inner hc]]
    simp
  have ha := h.all_isPathChar
  have ht : Target.ofChars (path.toList ++ ['?']) = .ok ⟨path, some ""⟩ := by
    rw [Target.ofChars, hw]
    simp [ha]
  have hl : (path ++ String.ofList ['?']).utf8ByteSize ≤ Address.maxLength := by
    rw [String.utf8ByteSize_append]
    exact h.length
  exact h.parse_of_target ['?'] hl ht

theorem append (h : IsPath path) {tail : String}
    (ht : tail.toList.all isInnerChar = true)
    (hl : (path ++ tail).utf8ByteSize < Address.maxLength) : IsPath (path ++ tail) where
  slash := by
    have := h.slash
    cases hc : path.toList <;> simp_all
  chars := by
    rw [String.toList_append, List.all_append, h.chars, ht]
    rfl
  length := hl

end IsPath
end Http

namespace Kube

/-- A small letter or a digit. -/
def isNameEnd (c : Char) : Bool := c.isLower || c.isDigit

/-- A character of a label. -/
def isNameChar (c : Char) : Bool := isNameEnd c || c == '-'

/-- A part of a name: small letters, digits and hyphens, neither the first nor the last of which is
a hyphen. -/
def isLabel (cs : List Char) : Bool :=
  cs.all isNameChar && cs.head?.any isNameEnd && cs.getLast?.any isNameEnd

/-- Whether a text can name an object: it is a subdomain, of up to 253 characters, with labels that
are separated by dots. -/
structure IsName (name : String) : Prop where
  length : name.length ≤ 253
  labels : ∀ label ∈ Text.splitAll '.' name.toList, isLabel label = true

instance (name : String) : Decidable (IsName name) :=
  decidable_of_iff (name.length ≤ 253 ∧
      ∀ label ∈ Text.splitAll '.' name.toList, isLabel label = true)
    ⟨fun ⟨hl, hs⟩ => ⟨hl, hs⟩, fun ⟨hl, hs⟩ => ⟨hl, hs⟩⟩

example : IsName "edge-1.lab" ∧ ¬ IsName "" ∧ ¬ IsName "a..b" ∧ ¬ IsName "a.-b" := by decide

theorem IsName.nonempty {name : String} (h : IsName name) : name ≠ "" := by
  rintro rfl
  exact absurd (h.labels [] (List.mem_singleton_self _)) (by decide)

private theorem isInnerChar_of_isNameChar {c : Char} (h : isNameChar c = true) :
    Http.isInnerChar c = true := by
  simp only [isNameChar, isNameEnd, Bool.or_eq_true, beq_iff_eq] at h
  -- A name has none of the marks that end a path: the codes of its letters and digits are known.
  have inner (hn : 48 ≤ c.toNat ∧ c.toNat ≤ 57 ∨ 97 ≤ c.toNat ∧ c.toNat ≤ 122) :
      Http.isInnerChar c = true := by
    have hp : Http.Target.isPathChar c = true := by
      simp [Http.Target.isPathChar]
      omega
    have hq : c ≠ '?' := by
      rintro rfl
      simp at hn
    have hh : c ≠ '#' := by
      rintro rfl
      simp at hn
    simp [Http.isInnerChar, hp, hq, hh]
  rcases h with (hl | hd) | rfl
  · obtain ⟨ha, hz⟩ := Bool.and_eq_true_iff.1 hl
    exact inner (.inr ⟨UInt32.le_iff_toNat_le.1 (of_decide_eq_true ha),
      UInt32.le_iff_toNat_le.1 (of_decide_eq_true hz)⟩)
  · exact inner (.inl (Char.isDigit_iff_toNat.1 hd))
  · decide

theorem IsName.all_isInnerChar {name : String} (h : IsName name) :
    name.toList.all Http.isInnerChar = true := by
  rw [List.all_eq_true]
  intro c hc
  by_cases hd : c = '.'
  · rw [hd]
    decide
  · obtain ⟨label, hl, hm⟩ := Text.exists_mem_splitAll hc hd
    have hs := h.labels label hl
    simp only [isLabel, Bool.and_eq_true] at hs
    exact isInnerChar_of_isNameChar (List.all_eq_true.1 hs.1.1 c hm)

private theorem utf8ByteSize_le (s : String) : s.utf8ByteSize ≤ 4 * s.length := by
  have len (cs : List Char) : String.utf8Len cs ≤ 4 * cs.length := by
    induction cs with
    | nil => simp
    | cons c cs ih =>
      have := c.utf8Size_le_four
      simp only [String.utf8Len_cons, List.length_cons]
      omega
  simpa [String.utf8Len_toList, String.length_toList] using len s.toList

end Kube

namespace Registry

theorem isPath_collection : Http.IsPath collection where
  slash := by decide
  chars := by decide
  length := by decide

theorem isPath_item {id : String} (h : Kube.IsName id) : Http.IsPath (item id) := by
  have hl := Kube.utf8ByteSize_le id
  have hs : (collection ++ "/").utf8ByteSize = 37 := by decide
  refine Http.IsPath.append (isPath_collection.append (by decide) (by decide)) h.all_isInnerChar ?_
  have := h.length
  rw [String.utf8ByteSize_append, hs, Http.Address.maxLength]
  omega

theorem isPath_status {id : String} (h : Kube.IsName id) : Http.IsPath (item id ++ "/status") := by
  have hl := Kube.utf8ByteSize_le id
  have hs : (collection ++ "/").utf8ByteSize = 37 := by decide
  have ht : "/status".utf8ByteSize = 7 := by decide
  refine (isPath_item h).append (by decide) ?_
  have := h.length
  rw [String.utf8ByteSize_append, item, String.utf8ByteSize_append, hs, ht, Http.Address.maxLength]
  omega

/-- Asks for all objects. -/
def listRequest : Kube.Request := ⟨.get, collection, some "", none⟩

/-- Asks for the object under a name. -/
def getRequest (id : String) : Kube.Request := ⟨.get, item id, none, none⟩

/-- Asks for a new object. -/
def createRequest (id : String) (r : Registration) : Kube.Request :=
  ⟨.post, collection, some "", some (.json, r.resource id)⟩

/-- Asks for a change of the status of an object. -/
def patchRequest (id : String) (p : Status.Patch) : Kube.Request :=
  ⟨.patch, item id ++ "/status", some "", some (.mergePatch, p.document)⟩

theorem request?_list : Call.list.request? = some listRequest := by
  rw [Call.request?, Kube.Request.build?, Kube.Request.build, isPath_collection.parse_query]
  rfl

theorem request?_get {id : String} (h : Kube.IsName id) :
    (Call.get id).request? = some (getRequest id) := by
  have he : id.isEmpty = false := by simpa using h.nonempty
  rw [Call.request?, he, Kube.Request.build?, Kube.Request.build, (isPath_item h).parse]
  rfl

theorem request?_create (id : String) (r : Registration) :
    (Call.create id r).request? = some (createRequest id r) := by
  rw [Call.request?, Kube.Request.build?, Kube.Request.build, isPath_collection.parse_query]
  rfl

theorem request?_patch {id : String} (h : Kube.IsName id) (p : Status.Patch) :
    (Call.patch id p).request? = some (patchRequest id p) := by
  have he : id.isEmpty = false := by simpa using h.nonempty
  have ht : item id ++ "/status?" = item id ++ "/status" ++ "?" := by simp [String.append_assoc]
  rw [Call.request?, he, ht, Kube.Request.build?, Kube.Request.build, (isPath_status h).parse_query]
  rfl

end Registry
end MultiCluster
