import MultiCluster.Error
import MultiCluster.Member

/-! What can be asked of a registry of member clusters. -/
namespace MultiCluster.Registry

/-- A question to the registry or a change of it. -/
inductive Call where
  /-- All members in the order of their ids. -/
  | list
  /-- The member under an id. -/
  | get (id : String)
  /-- Registers a cluster under an id that is not in use. -/
  | create (id : String) (registration : Registration)
  /-- Changes parts of the status of a member. -/
  | patch (id : String) (change : Status.Patch)
  deriving DecidableEq, Repr

/-- What a call answers when it succeeds. -/
abbrev Call.Answer : Call → Type
  | list => List Member
  | get _ => Member
  | create .. => Member
  | patch .. => Unit

/-- What comes of a call. -/
abbrev Call.Reply (c : Call) : Type := Except Error c.Answer

/-- The failure of a call that always comes with the same error. -/
def Call.fail (c : Call) (e : Error) : c.Reply := .error e

/-- The refusal to register a cluster under an id that is in use. -/
def conflict (id : String) : Error := .conflict s!"cluster '{id}' already exists"

end MultiCluster.Registry
