import MultiCluster.Proofs.Registry.Agreement
import MultiCluster.Service.Listing
import MultiCluster.Sweep

/-! A list of members is read as a whole: one item that is no member leaves nothing of it. -/
namespace MultiCluster

namespace Kube

variable {α : Type}

private theorem mapM_ok (items : List Json) :
    items.mapM (m := Except Json.Fault) .ok = .ok items := by
  simpa [pure, Except.pure] using List.mapM_pure (m := Except Json.Fault) (f := id) (l := items)

private theorem list_eq_bind (item : Json.Decoder α) (j : Json) :
    Json.Decode.list item j = Json.Decode.list .ok j >>= fun items => items.mapM item := by
  cases j with
  | arr items =>
    rw [Json.Decode.list, Json.Decode.list, mapM_ok]
    rfl
  | _ => rfl

private theorem required_items (f : Json.Decode.Fields) (item : Json.Decoder α) :
    (do return (← f.required 1 "items"
        (Json.Decode.nullable (Json.Decode.list item))).getD []) =
      (do
        let items? ← f.required 1 "items" (Json.Decode.nullable (Json.Decode.list .ok))
        (items?.getD []).mapM item) := by
  cases h : f.value? 1 with
  | none =>
    cases hp : f.position <;>
      simp [Json.Decode.Fields.required, Json.Decode.Fields.optional, h,
        Json.Decode.Fields.present, hp, bind, Except.bind]
  | some j =>
    rw [Json.Decode.required_eq h, Json.Decode.required_eq h]
    cases j with
    | arr items =>
      have nullable {β : Type} (item : Json.Decoder β) :
          Json.Decode.nullable (Json.Decode.list item) (.arr items) =
            (Json.Decode.list item (.arr items)).map some := rfl
      rw [nullable, nullable, list_eq_bind]
      cases Json.Decode.list .ok (.arr items) with
      | error fault => rfl
      | ok read =>
        simp only [bind, Except.bind, Except.map, Option.getD_some]
        cases read.mapM item <;> rfl
    | _ => rfl

/-- A list is read by reading what is around its items, and then each of them. -/
theorem listOf_eq_bind (item : Json.Decoder α) (j : Json) :
    listOf item j = listOf .ok j >>= fun items => items.mapM item := by
  cases j with
  | obj members =>
    simp only [listOf, Json.Decode.record, bind_assoc, pure_bind]
    refine bind_congr fun others => bind_congr fun values => bind_congr fun metadata => ?_
    exact required_items ⟨values, none⟩ item
  | _ => rfl

end Kube

namespace Registry

section

variable {σ : Type} {limit : Span} {send : Kube.Transport σ} {w : σ} {items : List Json}

/-- Whether a reply comes in time and holds a list of these items, whatever they are. -/
def Lists (limit : Span) (items : List Json) : Kube.Reply → Prop :=
  Shows limit fun j => Kube.listOf .ok j = .ok items

/-- Whether one of the items is no member. -/
def IsSpoiled (items : List Json) : Prop := ∃ x ∈ items, ∃ fault, Member.ofResource x = .error fault

private theorem serveRemote_list (h : Lists limit items (send listRequest w).1) :
    (serveRemote limit send .list w).1 = match items.mapM Member.ofResource with
      | .ok ms => .ok (sortById ms)
      | .error _ => .error (.transport Kube.undecodableText) := by
  obtain ⟨j, hj, hr⟩ := h.readWithin_eq Call.list.activity Call.list.decoder
  have hd : Call.list.decoder j = (items.mapM Member.ofResource).map sortById := by
    have hb := Kube.listOf_eq_bind Member.ofResource j
    rw [hj] at hb
    exact congrArg (Except.map sortById) hb
  rw [serveRemote_eq request?_list, hr, hd]
  cases items.mapM Member.ofResource <;> rfl

/-- What becomes of a list of members, of a page of them and of a pass over them. -/
structure IsWhole (limit : Span) (send : Kube.Transport σ) (w : σ) (items : List Json) : Prop where
  /-- When every item is a member, all of them are listed in the order of their ids. -/
  listed : (∀ x ∈ items, ∃ m, Member.ofResource x = .ok m) →
    ∃ ms, items.mapM Member.ofResource = .ok ms ∧
      (serveRemote limit send .list w).1 = .ok (sortById ms)
  /-- One item that is none is enough for the list to fail. -/
  unlisted : IsSpoiled items →
    (serveRemote limit send .list w).1 = .error (.transport Kube.undecodableText)
  /-- Then a page fails before any cluster is looked at. -/
  page : IsSpoiled items → ∀ serve : (c : MultiCluster.Call) → StateM σ c.Reply,
    serve (.registry .list) = serveRemote limit send .list → ∀ position n request,
      ((Service.listing n request).step serve position w).1 =
        .done (.error (.transport Kube.undecodableText))
  /-- Then a pass fails before any cluster is visited. -/
  pass : IsSpoiled items → ∀ serve : (c : MultiCluster.Call) → StateM σ c.Reply,
    serve (.registry .list) = serveRemote limit send .list → ∀ position plan,
      ((Sweep.pass plan).step serve position w).1 =
        .done (.error (.transport Kube.undecodableText))

private theorem step_of_ask {α β : Type} {flow : Flow β α}
    {next : Except Error (List Member) → Flow β α} {e : Error} {a : α}
    {serve : (c : MultiCluster.Call) → StateM σ c.Reply} (hf : flow = .ask (.registry .list) next)
    (hn : next (.error e) = .done a) (h : (serve (.registry .list) w).1 = .error e)
    (position : Nat) : (flow.step serve position w).1 = .done a := by
  have hs : (flow.step serve position w).1 = (next (serve (.registry .list) w).1).settle := by
    rw [hf]
    rfl
  rw [hs, h, hn]
  rfl

/-- The members are listed when all items in the list can be read; when one cannot, the list, every
page and every pass fail. -/
theorem list_whole (h : Lists limit items (send listRequest w).1) : IsWhole limit send w items := by
  have unlisted (hx : IsSpoiled items) :
      (serveRemote limit send .list w).1 = .error (.transport Kube.undecodableText) := by
    obtain ⟨x, hx, fault, hf⟩ := hx
    rw [serveRemote_list h]
    cases hm : items.mapM Member.ofResource with
    | error e => rfl
    | ok ms =>
      obtain ⟨m, hm⟩ := mapM_eq_ok_iff.1 ⟨ms, hm⟩ x hx
      rw [hf] at hm
      cases hm
  constructor
  case listed =>
    intro hm
    obtain ⟨ms, hms⟩ := mapM_eq_ok_iff.2 hm
    exact ⟨ms, hms, by rw [serveRemote_list h, hms]⟩
  case unlisted => exact unlisted
  case page =>
    intro hx serve hs position n request
    have hl := unlisted hx
    rw [← hs] at hl
    have hf : Service.listing n request = .ask (.registry .list) _ := rfl
    exact step_of_ask hf rfl hl position
  case pass =>
    intro hx serve hs position plan
    have hl := unlisted hx
    rw [← hs] at hl
    have hf : Sweep.pass plan = .ask (.registry .list) _ := rfl
    exact step_of_ask hf rfl hl position

end

/-- A cluster, next to an object of which nothing but the name is known. -/
def mixed : List Json :=
  [(Registration.mk "config" "edge" "").resource "edge",
    .obj [("metadata", .ofTexts [("name", "hut")])]]

/-- Shows the items in whatever state. -/
def showing (items : List Json) : Kube.Transport Unit := fun _ =>
  return .answer 200 (Json.obj [("items", .arr items)]).render 0

private theorem lists_mixed : Lists (.ofSeconds 30) mixed (showing mixed listRequest ()).1 := by
  have inTime (body : String) : (Kube.Reply.answer 200 body 0).isInTime (.ofSeconds 30) = true := by
    simp [Kube.Reply.isInTime, Span.isZero, Span.ofSeconds]
  exact ⟨200, _, 0, .obj [("items", .arr mixed)], rfl, rfl, inTime _, Json.parseLenient?_render rfl,
    rfl⟩

private theorem isSpoiled_mixed : IsSpoiled mixed :=
  ⟨_, List.mem_cons_of_mem _ (List.mem_singleton_self _), _, rfl⟩

/-- Of a cluster and an object that is none, nothing is listed. -/
theorem list_whole_of_two :
    Lists (.ofSeconds 30) mixed (showing mixed listRequest ()).1 ∧ IsSpoiled mixed ∧
      IsWhole (.ofSeconds 30) (showing mixed) () mixed :=
  ⟨lists_mixed, isSpoiled_mixed, list_whole lists_mixed⟩

/-- It is not so that the items which can be read are always listed. -/
theorem not_list_the_readable : ¬ ∀ (limit : Span) (send : Kube.Transport Unit) (items : List Json),
    Lists limit items (send listRequest ()).1 → (serveRemote limit send .list ()).1 =
      .ok (sortById (items.filterMap fun x => (Member.ofResource x).toOption)) := by
  intro h
  have hl := h (.ofSeconds 30) (showing mixed) mixed lists_mixed
  rw [serveRemote_list lists_mixed] at hl
  cases hl

end Registry
end MultiCluster
