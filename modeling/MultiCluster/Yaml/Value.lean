import MultiCluster.Binary64.Reading
import MultiCluster.Yaml.Node

/-! The values of YAML documents. Plain scalars write nothing, truth values, numbers or texts by how
they look, other scalars are texts, and a tag of one's own stays with its value. -/
namespace MultiCluster.Yaml

open Text

/-- A value. -/
inductive Value where
  | null
  | bool (value : Bool)
  | int (value : Int)
  | real (value : Binary64)
  | str (text : String)
  | seq (items : List Value)
  | map (pairs : List (Value × Value))
  | tagged (tag : Tag) (value : Value)
  deriving Inhabited, Repr

namespace Value

mutual

/-- Whether two values are the same as keys. The order of pairs does not count, nor the sign of a
zero. -/
def same : Value → Value → Bool
  | .null, .null => true
  | .bool a, .bool b => a == b
  | .int a, .int b => a == b
  | .real a, .real b => a == b || (a.isZero && b.isZero)
  | .str a, .str b => a == b
  | .seq xs, .seq ys => sameItems xs ys
  | .map xs, .map ys => xs.length == ys.length && samePairs xs ys
  | .tagged s x, .tagged t y => s == t && same x y
  | _, _ => false

/-- Whether items are the same one by one. -/
def sameItems : List Value → List Value → Bool
  | [], [] => true
  | x :: xs, y :: ys => same x y && sameItems xs ys
  | _, _ => false

/-- Whether the same pairs are found in another mapping. -/
def samePairs : List (Value × Value) → List (Value × Value) → Bool
  | [], _ => true
  | (k, v) :: rest, ys => (ys.any fun p => same k p.1 && same v p.2) && samePairs rest ys

end

/-- The value below its tags. -/
def untagged : Value → Value
  | .tagged _ v => untagged v
  | v => v

/-- Whether a plain scalar writes nothing. -/
def isNullText (s : String) : Bool := ["~", "null", "Null", "NULL"].contains s

/-- A truth value. -/
def bool? (s : String) : Option Bool :=
  if ["true", "True", "TRUE"].contains s then some true
  else if ["false", "False", "FALSE"].contains s then some false
  else none

/-- The number that one or more digits of a base write. -/
def based (base : Nat) (cs : List Char) : Option Nat :=
  if cs.isEmpty then none else digitsInBase? base cs

/-- An integer: decimal without needless zeros, or marked as hexadecimal, octal or binary. -/
def int? (cs : List Char) : Option Int := do
  let (isNegative, digits) := match cs with
    | '-' :: rest => (true, rest)
    | '+' :: rest => (false, rest)
    | _ => (false, cs)
  let n ← match digits with
    | '0' :: 'x' :: rest => based 16 rest
    | '0' :: 'o' :: rest => based 8 rest
    | '0' :: 'b' :: rest => based 2 rest
    | '0' :: _ :: _ => none
    | _ => readDigits digits
  return if isNegative then -n else n

/-- Whether a scalar with leading zeros looks like a number but is a text. -/
def hasNeedlessZero (cs : List Char) : Bool :=
  let digits := match cs with
    | '-' :: rest | '+' :: rest => rest
    | _ => cs
  digits.length > 1 && digits.head? == some '0' && digits.all Char.isDigit

/-- A double. Beside decimals within its range there are words for the infinities and for no
number. -/
def real? (s : String) : Option Binary64 :=
  let (isPlus, unsigned) := match s.toList with
    | '+' :: rest => (true, rest)
    | cs => (false, cs)
  if [".inf", ".Inf", ".INF"].contains (String.ofList unsigned) then some (.infinite false)
  else if ["-.inf", "-.Inf", "-.INF"].contains s then some (.infinite true)
  else if [".nan", ".NaN", ".NAN"].contains s then some .nan
  else if isPlus && unsigned.head?.any (fun x => x == '+' || x == '-') then none
  else (Binary64.ofChars? unsigned).filter (·.isFinite)

/-- The value of a number in 64 bits. Larger ones are refused up to 128 bits. -/
def ofInt (i : Int) : Option Value :=
  if Word.least 64 ≤ i ∧ i < Word.limit 64 then some (.int i) else none

/-- An integer of up to 128 bits. -/
def wideInt? (cs : List Char) : Option Int :=
  (int? cs).filter fun i => Word.least 128 ≤ i && i < Word.limit 128

/-- The value of a plain scalar. -/
def ofPlain (s : String) : Option Value :=
  if s.isEmpty || isNullText s then some .null else
  match bool? s with
  | some b => some (.bool b)
  | none =>
    match wideInt? s.toList with
    | some i => ofInt i
    | none =>
      match (if hasNeedlessZero s.toList then none else real? s) with
      | some x => some (.real x)
      | none => some (.str s)

/-- The tag of one of the kinds of scalars that every reader knows. -/
def coreTag (kind : String) : Tag := utf8Octets ("tag:yaml.org,2002:" ++ kind)

/-- The name that a tag of one's own gives: what follows its exclamation mark. -/
def ownTag? : Tag → Option Tag
  | 33 :: name => if (utf8Text? name).isSome then some name else none
  | _ => none

/-- The value of a scalar that is not tagged by one's own tag. -/
def ofScalar (tag : Option Tag) (isPlain : Bool) (text : String) : Option Value :=
  match tag with
  | none => if isPlain then ofPlain text else some (.str text)
  | some tag =>
    if tag = coreTag "bool" then (bool? text).map .bool
    else if tag = coreTag "int" then (wideInt? text.toList).bind ofInt
    else if tag = coreTag "float" then (real? text).map .real
    else if tag = coreTag "null" then if isNullText text then some .null else none
    else if tag.head? == some 33 && isPlain then ofPlain text
    else some (.str text)

/-- A value under a tag, whose name may not be empty. -/
def withTag (name : Tag) (v : Value) : Option Value :=
  if name.isEmpty then none else some (.tagged name v)

/-- A mapping, in which no two keys may be the same. -/
def ofPairs? : List (Value × Value) → Option (List (Value × Value))
  | [] => some []
  | (k, v) :: rest =>
    if rest.any fun p => same k p.1 then none else (ofPairs? rest).map ((k, v) :: ·)

/-- What aliases stand for, and how many may be followed. -/
structure Anchors where
  nodes : List (Nat × Node)
  limit : Nat

/-- The anchors of a document. Of nodes with one number the last counts. -/
def Anchors.ofNode (node : Node) : Anchors := ⟨node.anchored.reverse, 100 * node.size⟩

/-- The node that a node stands for; counts the aliases that are followed. -/
def resolve (anchors : Anchors) : Node → StateT Nat Option Node
  | .alias number => fun followed =>
    if anchors.limit ≤ followed then none
    else (anchors.nodes.lookup number).map fun node => (node, followed + 1)
  | node => pure node

/-- The value of a node by the tag in front of it: under its own tag, or by a known one. -/
def underTag (tag : Option Tag) (build : Option Tag → Option Value) : Option Value :=
  match tag.bind ownTag? with
  | some name => (build none).bind (withTag name)
  | none => build tag

/-- The value of a scalar; nothing of any other node. -/
def ofScalarNode : Node → Option Value
  | .scalar props isPlain text => underTag props.tag fun tag => ofScalar tag isPlain text
  | _ => none

/-- The value of a node, in which collections may be nested as deep as given. -/
def ofNode (anchors : Anchors) : Nat → Node → StateT Nat Option Value
  | 0, node => do
    let node ← resolve anchors node
    ofScalarNode node
  | depth + 1, node => do
    match ← resolve anchors node with
    | .seq props items =>
      let values ← items.mapM (ofNode anchors depth)
      underTag props.tag fun _ => some (.seq values)
    | .map props pairs =>
      let values ← pairs.mapM fun p => do
        return (← ofNode anchors depth p.1, ← ofNode anchors depth p.2)
      underTag props.tag fun _ => (ofPairs? values).map .map
    | node => ofScalarNode node

/-- How deep collections may be nested. -/
def depthLimit : Nat := 128

/-- The values of the documents of a text, of which there is always one. -/
def documents? (text : String) : Option (List Value) := do
  (← Node.documents? text).mapM fun node =>
    ((ofNode (Anchors.ofNode node) depthLimit node).run 0).map Prod.fst

end Value
end MultiCluster.Yaml
