import MultiCluster.Json.Decode

/-! Pages of a listing. Pages count from one; page zero and pages past the end are empty. -/
namespace MultiCluster

/-- Which page is wanted, of how many items. Both are 32-bit numbers on the wire. -/
structure PageRequest where
  page : Nat
  size : Nat
  deriving DecidableEq, Repr

namespace PageRequest

def defaultPage : Nat := 1

def defaultSize : Nat := 500

def first : PageRequest := ⟨defaultPage, defaultSize⟩

/-- Where the page starts and ends within a listing of `total` items. -/
def bounds (p : PageRequest) (total : Nat) : Nat × Nat :=
  (min ((p.page - 1) * p.size) total, min (p.page * p.size) total)

/-- The items of the page. -/
def slice {α : Type} (p : PageRequest) (items : List α) : List α :=
  let (start, stop) := p.bounds items.length
  (items.take stop).drop start

/-- Reads a page request; what is not given has its default. -/
def ofJson : Json.Decoder PageRequest :=
  Json.Decode.record "a page request" [["page"], ["page_size"]] fun f => do
    return ⟨← f.withDefault 0 (Json.Decode.nat 32) defaultPage,
      ← f.withDefault 1 (Json.Decode.nat 32) defaultSize⟩

end PageRequest

/-- One page of a listing, with the size of the whole. -/
structure Page (α : Type) where
  items : List α
  total : Nat
  request : PageRequest
  deriving Repr

namespace Page

/-- The page of a listing that a request asks for. -/
def of {α : Type} (items : List α) (request : PageRequest) : Page α :=
  ⟨request.slice items, items.length, request⟩

def toJson {α : Type} (item : α → Json) (p : Page α) : Json :=
  .obj [("list", .arr (p.items.map item)), ("count", .int p.total), ("page", .int p.request.page),
    ("page_size", .int p.request.size)]

end Page
end MultiCluster
