import MultiCluster.Json

/-! Tables of a TOML document and the rules by which its lines add to them: no key is given twice,
and a table is either opened by one header, or grown by dotted keys, or only implied. -/
namespace MultiCluster.Toml

/-- How a table came to be. -/
inductive Origin where
  /-- A header names it. -/
  | header
  /-- It is on the way to what a header names. -/
  | implied
  /-- It is on the way to what a dotted key names. -/
  | dotted
  deriving DecidableEq, Repr

/-- What a key stands for: a finished value, a table, or a list of tables. -/
inductive Item where
  | leaf (value : Json)
  | table (origin : Origin) (entries : List (String × Item))
  | tables (items : List (List (String × Item)))

/-- Keys and what they stand for, in the order in which they came. -/
abbrev Entries := List (String × Item)

namespace Item

mutual

def toJson : Item → Json
  | leaf value => value
  | table _ entries => .obj (entriesToJson entries)
  | tables items => .arr (tablesToJson items)

def entriesToJson : List (String × Item) → List (String × Json)
  | [] => []
  | (key, item) :: rest => (key, toJson item) :: entriesToJson rest

def tablesToJson : List (List (String × Item)) → List Json
  | [] => []
  | entries :: rest => .obj (entriesToJson entries) :: tablesToJson rest

end
end Item

namespace Entries

/-- What a key stands for. -/
def find? (es : Entries) (key : String) : Option Item := List.lookup key es

def put (key : String) (item : Item) : Entries → Entries
  | [] => [(key, item)]
  | (k, i) :: rest => if k = key then (k, item) :: rest else (k, i) :: put key item rest

def add (key : String) (item : Item) (es : Entries) : Option Entries :=
  if (es.find? key).isSome then none else some (es.put key item)

/-- Changes the table at the end of a path whose way is made as needed. In a list of tables the way
leads through the last one. A dotted key does not lead into a table with a header. The change is
told how the table came to be. -/
def change (byDots : Bool) (edit : Origin → Entries → Option Entries) :
    Origin → List String → Entries → Option Entries
  | origin, [], es => edit origin es
  | _, key :: rest, es =>
    match es.find? key with
    | none => do
      let origin := if byDots then .dotted else .implied
      return es.put key (.table origin (← change byDots edit origin rest []))
    | some (.leaf _) => none
    | some (.table origin inner) =>
      if byDots && origin == .header then none else do
      return es.put key (.table origin (← change byDots edit origin rest inner))
    | some (.tables items) => do
      let last ← items.getLast?
      return es.put key (.tables (items.dropLast ++ [← change byDots edit .header rest last]))

/-- Opens the table that a header names: a new one, or one that was only implied. -/
def openTable (path : List String) (es : Entries) : Option Entries := do
  let key ← path.getLast?
  let edit (_ : Origin) (inner : Entries) : Option Entries :=
    match inner.find? key with
    | none => some (inner.put key (.table .header []))
    | some (.table .implied own) => some (inner.put key (.table .header own))
    | some _ => none
  change false edit .header path.dropLast es

/-- Adds a table to the list that a doubled header names. -/
def appendTable (path : List String) (es : Entries) : Option Entries := do
  let key ← path.getLast?
  let edit (_ : Origin) (inner : Entries) : Option Entries :=
    match inner.find? key with
    | none => some (inner.put key (.tables [[]]))
    | some (.tables items) => some (inner.put key (.tables (items ++ [[]])))
    | some _ => none
  change false edit .header path.dropLast es

/-- Gives a dotted key its value. The table that gets the last part must have been made by dots, if
there is another part in front. -/
def assign (path : List String) (value : Json) (es : Entries) : Option Entries := do
  let key ← path.getLast?
  let edit (origin : Origin) (inner : Entries) : Option Entries :=
    if path.length > 1 && origin != .dotted then none else inner.add key (.leaf value)
  change true edit .header path.dropLast es

end Entries

/-- A line of a document. -/
inductive Line where
  | header (path : List String)
  | listHeader (path : List String)
  | assignment (path : List String) (value : Json)

/-- A document as far as it has been read: its entries, and the table that assignments add to. -/
structure Document where
  entries : Entries
  current : List String

namespace Document

def empty : Document := ⟨[], []⟩

def add (d : Document) : Line → Option Document
  | .header path => (d.entries.openTable path).map (⟨·, path⟩)
  | .listHeader path => (d.entries.appendTable path).map (⟨·, path⟩)
  | .assignment path value =>
    let edit (_ : Origin) (inner : Entries) : Option Entries := inner.assign path value
    (Entries.change false edit .header d.current d.entries).map (⟨·, d.current⟩)

def toJson (d : Document) : Json := .obj (Item.entriesToJson d.entries)

end Document
end MultiCluster.Toml
