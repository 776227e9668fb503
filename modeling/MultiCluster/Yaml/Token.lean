/-! The tokens of YAML: indicators, names and scalars, and the bounds of collections, of which those
in block style follow from indentation. -/
namespace MultiCluster.Yaml

/-- The name of a type, as octets. -/
abbrev Tag := List UInt8

/-- A token. -/
inductive Token where
  /-- The directive that names a version. -/
  | version (major minor : Nat)
  /-- The directive that lets a handle stand for the start of tags. -/
  | handle (name : String) (start : Tag)
  | documentStart
  | documentEnd
  | blockSequence
  | blockMapping
  | blockEnd
  | flowSequence
  | flowSequenceEnd
  | flowMapping
  | flowMappingEnd
  /-- A dash in front of an item of a block sequence. -/
  | item
  | comma
  | key
  | value
  | alias (name : String)
  | anchor (name : String)
  /-- A tag by a handle, which is empty for a tag written out. -/
  | tag (handle : String) (suffix : Tag)
  | scalar (isPlain : Bool) (text : String)
  deriving DecidableEq, Repr

end MultiCluster.Yaml
