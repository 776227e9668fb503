import MultiCluster.Json.Token

/-! The rest behind a JSON value that nobody wants to know. It has to be well-formed, but strings
may hold lone surrogates, numbers may be of any size, and there is no limit to nesting. -/
namespace MultiCluster.Json

/-- The rest behind a string whose opening quote has been read. Escapes must be complete but may
write lone surrogates. -/
def skipStringTail : List Char → Option (List Char)
  | [] => none
  | '"' :: rest => some rest
  | '\\' :: 'u' :: a :: b :: c :: d :: rest =>
    if [a, b, c, d].all fun x => (Text.hexDigit? x).isSome then skipStringTail rest else none
  | '\\' :: c :: rest =>
    if ['"', '\\', '/', 'b', 'f', 'n', 'r', 't'].contains c then skipStringTail rest else none
  | c :: rest => if c.toNat < 0x20 then none else skipStringTail rest

/-- The rest behind a number of any size. -/
def skipNumber (cs : List Char) : Option (List Char) := do
  let cs := match cs with
    | '-' :: rest => rest
    | _ => cs
  let (_, cs) ← readWhole cs
  let cs ← match cs with
    | '.' :: rest => (readMarked rest).map (·.2)
    | _ => some cs
  (readPower cs).map (·.2)

/-- The rest behind a value that is neither an array nor an object. -/
def skipAtom : List Char → Option (List Char)
  | 'n' :: rest => expect ['u', 'l', 'l'] rest
  | 't' :: rest => expect ['r', 'u', 'e'] rest
  | 'f' :: rest => expect ['a', 'l', 's', 'e'] rest
  | '"' :: rest => skipStringTail rest
  | cs => skipNumber cs

mutual

def skipValue : Nat → List Char → Option (List Char)
  | 0, _ => none
  | fuel + 1, cs =>
    match skipSpace cs with
    | '[' :: rest =>
      match skipSpace rest with
      | ']' :: tail => some tail
      | tail => skipItems fuel tail
    | '{' :: rest =>
      match skipSpace rest with
      | '}' :: tail => some tail
      | tail => skipMembers fuel tail
    | other => skipAtom other

/-- The rest behind the items of an array and its closing bracket. -/
def skipItems : Nat → List Char → Option (List Char)
  | 0, _ => none
  | fuel + 1, cs => do
    match skipSpace (← skipValue fuel cs) with
    | ',' :: rest => skipItems fuel rest
    | ']' :: rest => some rest
    | _ => none

/-- The rest behind the members of an object and its closing brace. -/
def skipMembers : Nat → List Char → Option (List Char)
  | 0, _ => none
  | fuel + 1, cs =>
    match skipSpace cs with
    | '"' :: key => do
      let rest ← expect [':'] (skipSpace (← skipStringTail key))
      match skipSpace (← skipValue fuel rest) with
      | ',' :: rest => skipMembers fuel rest
      | '}' :: rest => some rest
      | _ => none
    | _ => none

end

end MultiCluster.Json
