/-! Addresses of HTTP requests: a path with a query, a host, or both behind a scheme. -/
namespace MultiCluster.Http

/-- Why a text is no address. -/
inductive AddressFault where
  | empty
  | tooLong
  | character
  | authority
  | form
  | scheme
  deriving DecidableEq, Repr

def AddressFault.message : AddressFault → String
  | empty => "empty string"
  | tooLong => "uri too long"
  | character => "invalid uri character"
  | authority => "invalid authority"
  | form => "invalid format"
  | scheme => "scheme too long"

/-- A path and a query, both as written; the query is without its question mark. -/
structure Target where
  path : String
  query : Option String
  deriving DecidableEq, Repr

namespace Target

/-- Characters of a path. Those beyond ASCII may stand in it. -/
def isPathChar (c : Char) : Bool :=
  let n := c.toNat
  n = 0x21 || n = 0x22 || (0x24 ≤ n && n ≤ 0x3B) || n = 0x3D || (0x40 ≤ n && n ≤ 0x5F)
    || (0x61 ≤ n && n ≠ 0x7F)

def isQueryChar (c : Char) : Bool :=
  let n := c.toNat
  n = 0x21 || (0x24 ≤ n && n ≤ 0x3B) || n = 0x3D || (0x3F ≤ n && n ≠ 0x7F)

/-- Reads a path and a query. What follows a number sign is dropped. -/
def ofChars (cs : List Char) : Except AddressFault Target :=
  let path := cs.takeWhile fun c => c != '?' && c != '#'
  let query? : Option (List Char) :=
    match cs.drop path.length with
    | '?' :: rest => some (rest.takeWhile (· != '#'))
    | _ => none
  if path.all isPathChar && query?.all (·.all isQueryChar) then
    .ok ⟨String.ofList path, query?.map String.ofList⟩
  else .error .character

end Target

/-- An address. Without a scheme it is either a target alone or a host alone. -/
structure Address where
  scheme : Option String
  authority : String
  target : Target
  deriving DecidableEq, Repr

namespace Address

/-- Addresses are no longer than this, in octets. -/
def maxLength : Nat := 65534

def isSchemeChar (c : Char) : Bool := c.isAlphanum || c == '+' || c == '-' || c == '.' || c == '~'

def maxScheme : Nat := 64

/-- Characters of the part with the host; percent signs only in names and in brackets. -/
def isAuthorityChar (c : Char) : Bool := c.isAlphanum || "!$&'()*+,-.:;=@[]_~%".toList.contains c

/-- What has been seen of the part with the host. Colons and percent signs count from the last at
sign or closing bracket on. -/
structure Seen where
  colons : Nat
  opened : Bool
  closed : Bool
  percent : Bool
  deriving DecidableEq, Repr

def Seen.add (s : Seen) : Char → Except AddressFault Seen
  | ':' => if s.colons < 8 then .ok { s with colons := s.colons + 1 } else .error .authority
  | '[' => if s.percent || s.opened then .error .authority else .ok { s with opened := true }
  | ']' => if !s.opened || s.closed then .error .authority else .ok ⟨0, true, true, false⟩
  | '@' => .ok { s with colons := 0, percent := false }
  | '%' => .ok { s with percent := true }
  | c => if isAuthorityChar c then .ok s else .error .character

/-- Checks the part with the host: brackets are closed, there is at most one colon in front of a
port, and something follows an at sign. -/
def checkAuthority (cs : List Char) : Except AddressFault Unit := do
  let s ← cs.foldlM Seen.add ⟨0, false, false, false⟩
  if s.opened == s.closed && s.colons ≤ 1 && !s.percent && cs.getLast? != some '@' then return ()
  else throw .authority

/-- What ends the part with the host. -/
def endsAuthority (c : Char) : Bool := c == '/' || c == '?' || c == '#'

/-- The scheme in front of a colon and two slashes, if there is one, and the rest; too long a scheme
is refused. -/
def splitScheme (cs : List Char) : Except AddressFault (Option String × List Char) :=
  let scheme := cs.takeWhile isSchemeChar
  match cs.dropWhile isSchemeChar with
  | ':' :: '/' :: '/' :: rest =>
    if cs.length ≤ 3 then .ok (none, cs)
    else if scheme.length ≤ maxScheme then .ok (some (String.ofList scheme), rest)
    else .error .scheme
  | _ => .ok (none, cs)

def parse (s : String) : Except AddressFault Address := do
  let cs := s.toList
  if s.utf8ByteSize > maxLength then throw .tooLong
  if cs.isEmpty then throw .empty
  if cs.head? = some '/' then return ⟨none, "", ← Target.ofChars cs⟩
  if cs = ['*'] then return ⟨none, "", ⟨"*", none⟩⟩
  let (scheme, rest) ← splitScheme cs
  let authority := rest.takeWhile (!endsAuthority ·)
  let tail := rest.drop authority.length
  checkAuthority authority
  if authority.isEmpty || (scheme.isNone && !tail.isEmpty) then throw .form
  return ⟨scheme, String.ofList authority, ← Target.ofChars tail⟩

/-- The path that is asked for. Behind a host with a scheme it is never empty. -/
def path (a : Address) : String :=
  if a.target.path.isEmpty && a.scheme.isSome then "/" else a.target.path

end Address
end MultiCluster.Http
