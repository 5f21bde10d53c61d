import CarrierAuth.Schema
import CarrierAuth.Yaml.Document

/-
  YAML as a format — how the nodes of a document read as values.

  A plain scalar reads as a truth value or a number by its spelling; a text takes any
  scalar as it is written. A node that is left out is an empty list or record. A
  choice is named by a scalar, or by a tag of its own on an empty one.
-/
namespace CarrierAuth.Yaml

/-! ## Spellings -/

def readFlag? (text : List Char) : Option Bool :=
  if ["true", "True", "TRUE"].contains (String.ofList text) then some true
  else if ["false", "False", "FALSE"].contains (String.ofList text) then some false
  else none

/-- Whether a spelling stands for nothing. -/
def isNull (text : List Char) : Bool :=
  ["", "~", "null", "Null", "NULL"].contains (String.ofList text)

/-- A spelling without its sign, and whether the sign is a minus. -/
def splitSign : List Char → Bool × List Char
  | '+' :: rest => (false, rest)
  | '-' :: rest => (true, rest)
  | text => (false, text)

/-- The base of a spelling without sign, by how it starts, and its digits. -/
def splitBase : List Char → Nat × List Char
  | '0' :: 'x' :: rest => (16, rest)
  | '0' :: 'o' :: rest => (8, rest)
  | '0' :: 'b' :: rest => (2, rest)
  | text => (10, text)

/-- Whether a spelling is several decimal digits that start with a zero, which is no
number. -/
def hasLeadingZero (text : List Char) : Bool :=
  match (splitSign text).2 with
  | '0' :: d :: rest => (d :: rest).all Char.isDigit
  | _ => false

def readInteger? (text : List Char) : Option Int :=
  if hasLeadingZero text then none
  else
    let (negative, text) := splitSign text
    let (base, digits) := splitBase text
    (Text.digitsValue? base digits).map fun n => if negative then -(n : Int) else n

/-! ## Scalars -/

/-- Whether a scalar is read by its spelling: a plain one is, and a literal one whose
tag says what it is. -/
def isSpelling (kind : Octets) (tag : Option Octets) : Style → Bool
  | .plain => true
  | .literal => tag == some kind
  | _ => false

def flagTag : Octets := octets "tag:yaml.org,2002:bool"

def integerTag : Octets := octets "tag:yaml.org,2002:int"

/-- The choice that a tag names. -/
def choiceOfTag? : Option Octets → Option String
  | some (33 :: rest) => String.fromUTF8? ⟨(if rest.isEmpty then plainTag else rest).toArray⟩
  | _ => none

/-- Whether nothing is written where a node may stand. -/
def Node.isEmpty : Node → Bool
  | .scalar _ .plain [] => true
  | _ => false

def Node.text? : Node → Option String
  | .scalar _ _ text => some (String.ofList text)
  | _ => none

namespace Document

def flag? (d : Document) (node : Node) : Option Bool :=
  match d.resolve node with
  | .scalar tag style text => if isSpelling flagTag tag style then readFlag? text else none
  | _ => none

def integer? (d : Document) (node : Node) : Option Int :=
  match d.resolve node with
  | .scalar tag style text =>
    if isSpelling integerTag tag style then readInteger? text else none
  | _ => none

def text? (d : Document) (node : Node) : Option String := (d.resolve node).text?

/-- The choice that a node names. -/
def choice? (d : Document) (node : Node) : Option String :=
  match d.resolve node with
  | .scalar tag style text =>
    match choiceOfTag? tag with
    | some name => if style = .plain ∧ isNull text then some name else none
    | none => some (String.ofList text)
  | _ => none

def list? (d : Document) (node : Node) : Option (List Node) :=
  match d.resolve node with
  | .sequence items => some items
  | node => if node.isEmpty then some [] else none

def entries? (d : Document) (node : Node) : Option (List (Node × Node)) :=
  match d.resolve node with
  | .mapping entries => some entries
  | node => if node.isEmpty then some [] else none

def fields? (d : Document) (node : Node) : Option (Fields Node) := do
  let entries ← d.entries? node
  return .named (← entries.mapM fun e => do return (← d.text? e.1, e.2))

/-- The entries of a node that are found by number. -/
def table? (d : Document) (node : Node) : Option (List (Int × Node)) := do
  let entries ← d.entries? node
  entries.mapM fun e => do return (← d.integer? e.1, e.2)

def format (d : Document) : Format Node where
  flag := d.flag?
  integer := d.integer?
  text := d.text?
  choice := d.choice?
  list := d.list?
  fields := d.fields?
  table := d.table?

end Document

def read {α : Type} (s : Schema α) (text : String) : Option α :=
  match document text.toList with
  | .ok d => s.read d.format d.root
  | .error _ => none

end CarrierAuth.Yaml
