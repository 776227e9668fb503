import MultiCluster.Url.Host

/-! Addresses of the web: a scheme, then for most of them a host, a path of segments and a query. -/
namespace MultiCluster

open Text

/-- An address. The port is given only where it is not that of the scheme. -/
structure Url where
  scheme : String
  user : String
  password : Option String
  host : Option Url.Host
  port : Option Nat
  path : String
  query : Option String
  fragment : Option String
  deriving DecidableEq, Repr

namespace Url

/-- The port that a scheme uses where none is given; such schemes always have a host. -/
def defaultPort? : String → Option Nat
  | "http" | "ws" => some 80
  | "https" | "wss" => some 443
  | "ftp" => some 21
  | _ => none

/-- The scheme of local files. -/
def file : String := "file"

/-- Whether the scheme has hosts and paths in the common form. -/
def isSpecial (scheme : String) : Bool := (defaultPort? scheme).isSome || scheme == file

/-- White space and controls, which are cut off at both ends of an address. -/
def isPadding (c : Char) : Bool := c.toNat ≤ 0x20

/-- Line ends and tabs, which are left out everywhere. -/
def isIgnored (c : Char) : Bool := c == '\t' || c == '\n' || c == '\r'

/-- The characters of an address that count. -/
def significant (s : String) : List Char :=
  let trimmed := dropEnd isPadding (s.toList.dropWhile isPadding)
  trimmed.filter (!isIgnored ·)

/-- The scheme in lower case and what follows its colon. -/
def splitScheme (cs : List Char) : Option (String × List Char) :=
  let isPart (c : Char) : Bool := c.isAlphanum || c == '+' || c == '-' || c == '.'
  match cs.takeWhile isPart, cs.dropWhile isPart with
  | first :: rest, ':' :: tail =>
    if first.isAlpha then some (String.ofList ((first :: rest).map Char.toLower), tail) else none
  | _, _ => none

/-- A slash, in common forms also one that leans backward. -/
def isSlash (special : Bool) (c : Char) : Bool := c == '/' || (special && c == '\\')

/-- What ends the part with the host. -/
def endsAuthority (special : Bool) (c : Char) : Bool := isSlash special c || c == '?' || c == '#'

/-- Name and password in front of the last at sign, and the rest. -/
def splitUser (authority : List Char) : Option (List Char) × List Char :=
  match authority.reverse.span (· != '@') with
  | (rest, _ :: front) => (some front.reverse, rest.reverse)
  | (_, []) => (none, authority)

/-- The host up to a colon outside brackets, and what follows it. -/
def splitHost (inBrackets : Bool) : List Char → List Char × List Char
  | [] => ([], [])
  | c :: rest =>
    if c = ':' ∧ inBrackets = false then ([], c :: rest) else
    let isInside := c = '[' || (inBrackets && c ≠ ']')
    let (host, tail) := splitHost isInside rest
    (c :: host, tail)

/-- The port behind a colon; none if there are no digits or if it is that of the scheme. -/
def readPort (scheme : String) (cs : List Char) : Except Fault (Option Nat) :=
  match cs with
  | [] | [':'] => .ok none
  | _ :: digits =>
    match readDigits digits with
    | some n =>
      if n > 65535 then .error .port
      else .ok (if defaultPort? scheme = some n then none else some n)
    | none => .error .port

/-- Encodes controls, characters outside ASCII and those given. -/
def encodeWhere (special : List Char) (cs : List Char) : String :=
  String.ofList (cs.flatMap fun c =>
    if c.toNat < 0x20 || 0x7E < c.toNat || special.contains c then
      (String.utf8EncodeChar c).flatMap percentOctet
    else [c])

def pathEncoded : List Char := [' ', '"', '<', '>', '\x60', '#', '?', '\x7b', '\x7d']

def queryEncoded (special : Bool) : List Char :=
  [' ', '"', '#', '<', '>'] ++ (if special then ['\''] else [])

def userEncoded : List Char := pathEncoded ++ ['/', ':', ';', '=', '@', '[', '\\', ']', '^', '|']

/-- A segment that stands for the one before it. -/
def isDoubleDot (segment : String) : Bool :=
  ["..", ".%2e", "%2e.", "%2e%2e"].contains segment.toLower

def isSingleDot (segment : String) : Bool := segment == "." || segment.toLower == "%2e"

/-- Applies the segments that stand for others. At the end of a path they leave an empty one. -/
def resolveDots (kept : List String) : List String → List String
  | [] => kept.reverse
  | segment :: rest =>
    let isLast := rest.isEmpty
    if isDoubleDot segment then resolveDots (if isLast then "" :: kept.tail else kept.tail) rest
    else if isSingleDot segment then resolveDots (if isLast then "" :: kept else kept) rest
    else resolveDots (segment :: kept) rest

def splitSlashes (special : Bool) (cs : List Char) : List (List Char) :=
  splitAll '/' (cs.map fun c => if isSlash special c then '/' else c)

/-- The path of an address that has segments. -/
def segmentedPath (special : Bool) (cs : List Char) : String :=
  match cs with
  | [] => if special then "/" else ""
  | c :: rest =>
    let segments := splitSlashes special (if isSlash special c then rest else c :: rest)
    let encoded := segments.map (encodeWhere pathEncoded)
    "/" ++ "/".intercalate (resolveDots [] encoded)

/-- Adds path, query and fragment to what comes before them. -/
def withTail (u : Url) (segmented : Bool) (cs : List Char) : Url :=
  let special := isSpecial u.scheme
  let isPath (c : Char) : Bool := c != '?' && c != '#'
  let path := cs.takeWhile isPath
  let rest := cs.dropWhile isPath
  let (query, rest) := match rest with
    | '?' :: tail => (some (tail.takeWhile (· != '#')), tail.dropWhile (· != '#'))
    | _ => (none, rest)
  let fragment := match rest with
    | '#' :: tail => some tail
    | _ => none
  { u with
    path := if segmented then segmentedPath special path else encodeWhere [] path
    query := query.map (encodeWhere (queryEncoded special))
    fragment := fragment.map (encodeWhere [' ', '"', '<', '>', '\x60']) }

/-- An address of which only the scheme is known. -/
def ofScheme (scheme : String) : Url := ⟨scheme, "", none, none, none, "", none, none⟩

/-- The part with the host, without the slashes in front of it, and all that follows. Where the host
is empty there is no user and no port; an at sign alone does no harm at the very end. -/
def parseAuthority (scheme : String) (cs : List Char) : Except Fault Url := do
  let special := isSpecial scheme
  let isPart (c : Char) : Bool := !endsAuthority special c
  let rest := cs.dropWhile isPart
  let (user, hostAndPort) := splitUser (cs.takeWhile isPart)
  let (name, password) := splitFirst ':' (user.getD [])
  let (hostText, portText) := splitHost false hostAndPort
  let host ← if special then Host.parse hostText else Host.parseOther hostText
  let needsHost := !name.isEmpty || !password.isEmpty || !portText.isEmpty
    || (user = some [] && !rest.isEmpty)
  if hostText.isEmpty && needsHost then throw .emptyHost
  let port ← readPort scheme portText
  let located : Url := { ofScheme scheme with
    user := encodeWhere userEncoded name
    password := if password.isEmpty then none else some (encodeWhere userEncoded password)
    host := some host
    port }
  return located.withTail true rest

/-- A letter and a colon or a bar, which name a drive. -/
def isDrive : List Char → Bool
  | [a, b] => a.isAlpha && (b == ':' || b == '|')
  | _ => false

def parseFile (cs : List Char) : Except Fault Url :=
  match cs with
  | a :: b :: rest =>
    if isSlash true a && isSlash true b then
      let hostText := rest.takeWhile fun c => !endsAuthority true c
      if hostText.isEmpty || isDrive hostText then .ok ((ofScheme file).withTail true rest) else do
        let host ← Host.parse hostText
        let located : Url :=
          { ofScheme file with host := if host = .domain "localhost" then none else some host }
        return located.withTail true (rest.drop hostText.length)
    else .ok ((ofScheme file).withTail true cs)
  | _ => .ok ((ofScheme file).withTail true cs)

def parse (s : String) : Except Fault Url :=
  match splitScheme (significant s) with
  | none => .error .noScheme
  | some (scheme, rest) =>
    if scheme == file then parseFile rest
    else if isSpecial scheme then parseAuthority scheme (rest.dropWhile (isSlash true))
    else match rest with
      | '/' :: '/' :: tail => parseAuthority scheme tail
      | '/' :: _ => .ok ((ofScheme scheme).withTail true rest)
      | _ => .ok ((ofScheme scheme).withTail false rest)

/-- Whether the address is one of the web. -/
def isWeb (u : Url) : Bool := u.scheme == "http" || u.scheme == "https"

end Url
end MultiCluster
