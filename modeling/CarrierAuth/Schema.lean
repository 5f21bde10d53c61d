/-
  Schemas — how a value stands in a document, whatever the document's notation.

  A `Format` reads the nodes of one notation; a `Shape` is what a value looks like
  when written, which every notation can print. A `Schema` has both sides for one
  type. A record may leave out fields that have a value by default and may hold
  fields that are not its own, but no field of its own twice.
-/
namespace CarrierAuth

/-- The fields of a record, by name or by place. -/
inductive Fields (ν : Type) where
  | named (entries : List (String × ν))
  | placed (values : List ν)

/-- Whether no text stands twice in a list. -/
def allDistinct : List String → Bool
  | [] => true
  | s :: rest => !rest.contains s && allDistinct rest

/-- The fields of a record whose own fields have these names; `none` where one is
given twice, or where more are given by place than there are names. -/
def Fields.arrange {ν : Type} (names : List String) : Fields ν → Option (List (String × ν))
  | .named entries =>
    let own := entries.filter fun e => names.contains e.1
    if allDistinct (own.map (·.1)) then some own else none
  | .placed values =>
    if values.length ≤ names.length then some (names.zip values) else none

/-- A notation for documents: how its nodes are read. -/
structure Format (ν : Type) where
  flag : ν → Option Bool
  integer : ν → Option Int
  text : ν → Option String
  /-- The name of one of several choices. -/
  choice : ν → Option String
  list : ν → Option (List ν)
  fields : ν → Option (Fields ν)
  /-- Entries that are found by number. -/
  table : ν → Option (List (Int × ν))

namespace Format

/-- The own fields of a record. -/
def record {ν : Type} (f : Format ν) (names : List String) (node : ν) :
    Option (List (String × ν)) :=
  (f.fields node).bind (Fields.arrange names)

end Format

/-- The key of an entry in a written document. -/
inductive Key where
  | name (s : String)
  | number (n : Int)
  deriving DecidableEq, Repr

def Key.text : Key → String
  | .name s => s
  | .number n => toString n

/-- What a value looks like when written. -/
inductive Shape where
  | flag (b : Bool)
  | integer (n : Int)
  | text (s : String)
  | texts (items : List String)
  | record (entries : List (Key × Shape))

/-- The two sides of a type: reading it in any notation, and writing it. -/
structure Schema (α : Type) where
  read : {ν : Type} → Format ν → ν → Option α
  write : α → Shape

namespace Schema

def flag : Schema Bool := ⟨fun f => f.flag, .flag⟩

/-- Whether an integer has 32 bits. -/
def isWord (n : Int) : Bool := -2147483648 ≤ n && n ≤ 2147483647

/-- Integers of 32 bits. -/
def word : Schema Int := ⟨fun f node => (f.integer node).filter isWord, .integer⟩

def text : Schema String := ⟨fun f => f.text, .text⟩

def texts : Schema (List String) :=
  ⟨fun f node => do (← f.list node).mapM f.text, .texts⟩

/-- One of several choices, by its name. -/
def choice {α : Type} (name : α → String) (ofName? : String → Option α) : Schema α :=
  ⟨fun f node => (f.choice node).bind ofName?, fun a => .text (name a)⟩

def field {α ν : Type} (s : Schema α) (f : Format ν) (name : String)
    (fields : List (String × ν)) : Option α :=
  (fields.lookup name).bind (s.read f)

/-- Reads a field that may be left out. -/
def fieldOr {α ν : Type} (s : Schema α) (f : Format ν) (name : String) (standard : α)
    (fields : List (String × ν)) : Option α :=
  match fields.lookup name with
  | some node => s.read f node
  | none => some standard

end Schema

end CarrierAuth
