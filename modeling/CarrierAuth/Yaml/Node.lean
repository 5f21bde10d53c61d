import CarrierAuth.Yaml.Lexer

/-
  YAML nodes — what a text says, free of how it is laid out, and the anchors by
  which one node stands in several places.

  An alias holds a number, and a number belongs to a name of an anchor. Two anchors
  may come to share a number; it then means the one that starts last.
-/
namespace CarrierAuth.Yaml

inductive Node where
  | scalar (tag : Option Octets) (style : Style) (text : List Char)
  | sequence (items : List Node)
  | mapping (entries : List (Node × Node))
  | alias (number : Nat)

namespace Node

/-- The node where nothing is written. -/
def empty : Node := .scalar none .plain []

end Node

/-- The anchors met so far. -/
structure Anchors where
  /-- The number of each name. -/
  names : List (List Char × Nat) := []
  /-- The anchors that have started, the last one first: their number and, once it is
  read, their node. -/
  nodes : List (Nat × Option Node) := []

namespace Anchors

def number? (a : Anchors) (name : List Char) : Option Nat := a.names.lookup name

/-- The anchors with one more that starts. Its number is the count of names so far. -/
def start (a : Anchors) (name : List Char) : Anchors :=
  let number := a.names.length
  { names := (name, number) :: a.names.filter (·.1 != name)
    nodes := (number, none) :: a.nodes }

/-- The anchors with the node of one; `before` anchors have started before it. -/
def finish (a : Anchors) (before : Nat) (node : Node) : Anchors :=
  { a with nodes := a.nodes.modify (a.nodes.length - 1 - before) fun e => (e.1, some node) }

def node? (a : Anchors) (number : Nat) : Option Node := (a.nodes.lookup number).join

end Anchors

/-- A document: its node, and the nodes its aliases stand for. -/
structure Document where
  root : Node
  anchors : Anchors := {}

namespace Document

/-- The node that a node stands for. -/
def resolve (d : Document) : Node → Node
  | .alias number => (d.anchors.node? number).getD (.alias number)
  | node => node

end Document

end CarrierAuth.Yaml
