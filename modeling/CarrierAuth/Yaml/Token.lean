import CarrierAuth.Octets

/-
  YAML tokens — the words of a YAML text, with its indentation made explicit.
-/
namespace CarrierAuth.Yaml

/-- How a scalar is written. -/
inductive Style where
  | plain | quoted | literal | folded
  deriving DecidableEq, Repr

/-- A word of a YAML text. -/
inductive Token where
  | version (major minor : Nat)
  | tagDirective (handle : List Char) (expansion : Octets)
  | documentStart
  | documentEnd
  | blockSequence
  | blockMapping
  | blockEnd
  | flowSequence
  | flowSequenceEnd
  | flowMapping
  | flowMappingEnd
  | blockEntry
  | flowEntry
  | key
  | value
  | alias (name : List Char)
  | anchor (name : List Char)
  /-- A tag with an empty handle is given in full. -/
  | tag (handle : List Char) (suffix : Octets)
  | scalar (style : Style) (text : List Char)
  deriving DecidableEq, Repr

end CarrierAuth.Yaml
