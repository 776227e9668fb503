import MultiCluster.Error
import MultiCluster.Http.Address
import MultiCluster.Http.MediaType
import MultiCluster.Json.Decode
import MultiCluster.Text.Blank
import MultiCluster.Text.Percent

/-! Requests of clients and what they are answered. -/
namespace MultiCluster.Web

open Text

/-- A request as it comes in: the path and the query are still encoded. -/
structure Request where
  method : String
  path : String
  query : String
  contentType : Option String
  body : String
  deriving DecidableEq, Repr

/-- What an answer carries. -/
inductive Body where
  | none
  | text (content : String)
  | json (content : Json)

/-- An answer. -/
structure Answer where
  status : Nat
  body : Body

namespace Answer

/-- An answer without a body of interest. -/
def bare (status : Nat) : Answer := ⟨status, .none⟩

def ofJson (status : Nat) (j : Json) : Answer := ⟨status, .json j⟩

def ofProblem (p : Problem) : Answer := ⟨p.status, .json p.toJson⟩

def ofResult {α : Type} (status : Nat) (encode : α → Json) : Except Error α → Answer
  | .ok a => ofJson status (encode a)
  | .error e => ofProblem (.ofError e)

/-- The answer to a request for the head alone. -/
def withoutBody (a : Answer) : Answer := { a with body := .none }

end Answer

namespace Request

/-- The request to an address; what is no address has no path. -/
def ofTarget (method target : String) (contentType : Option String) (body : String) : Request :=
  match Http.Address.parse target with
  | .ok a => { method, path := a.path, query := a.target.query.getD "", contentType, body }
  | .error _ => { method, path := "", query := "", contentType, body }

/-- Whether the body is declared to be JSON. -/
def hasJson (r : Request) : Bool := (r.contentType.bind Http.MediaType.parse?).any (·.isJson)

/-- The parameter with a name, if given; giving one twice is refused. -/
def parameter? (r : Request) (name : String) : Except Unit (Option String) :=
  match (queryPairs r.query).filter fun p => p.1 == name with
  | [] => .ok none
  | [p] => .ok (some p.2)
  | _ => .error ()

/-- A numeric parameter of 32 bits, or its default. -/
def numberParameter (r : Request) (name : String) (default : Nat) : Except Unit Nat := do
  match ← r.parameter? name with
  | none => return default
  | some text =>
    match readUnsigned 32 text.toList with
    | some n => return n
    | none => throw ()

end Request
end MultiCluster.Web
