import MultiCluster.Json
import MultiCluster.Binary64.Shortest

/-! Writing JSON text without white space. -/
namespace MultiCluster.Json

open Text

def escapeChar (c : Char) : List Char :=
  match c with
  | '"' => ['\\', '"']
  | '\\' => ['\\', '\\']
  | '\n' => ['\\', 'n']
  | '\r' => ['\\', 'r']
  | '\t' => ['\\', 't']
  | '\x08' => ['\\', 'b']
  | '\x0c' => ['\\', 'f']
  | c => if c.toNat < 0x20 then '\\' :: 'u' :: (hexFixed 4 c.toNat).toList else [c]

def quote (s : String) : String := "\"" ++ String.ofList (s.toList.flatMap escapeChar) ++ "\""

mutual

/-- The text of a value. What JSON cannot write is null. -/
def render : Json → String
  | .null | .unreadable => "null"
  | .bool b => if b then "true" else "false"
  | .int i => toString i
  | .real x => if x.isFinite then x.compactText else "null"
  | .str s => quote s
  | .arr [] => "[]"
  | .arr (j :: rest) => "[" ++ render j ++ renderItems rest
  | .obj [] => "\x7b\x7d"
  | .obj ((k, v) :: rest) => "\x7b" ++ quote k ++ ":" ++ render v ++ renderMembers rest

def renderItems : List Json → String
  | [] => "]"
  | j :: rest => "," ++ render j ++ renderItems rest

def renderMembers : List (String × Json) → String
  | [] => "\x7d"
  | (k, v) :: rest => "," ++ quote k ++ ":" ++ render v ++ renderMembers rest

end
end MultiCluster.Json
