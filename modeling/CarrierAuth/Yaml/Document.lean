import CarrierAuth.Yaml.Node

/-
  YAML documents — from the tokens of a text to the document they spell.

  Readers take the tokens that are left, with what is known so far, and give a node
  and what is left then. Where a node may be left out and is, the empty node stands
  in its place.
-/
namespace CarrierAuth.Yaml

/-- The tokens left to read, what the handles of tags stand for, and the anchors. -/
structure Source where
  tokens : List Token
  handles : List (List Char × Octets) := []
  anchors : Anchors := {}

namespace Source

/-- The source behind its first token. -/
def next (s : Source) : Source := { s with tokens := s.tokens.tail }

/-- The tag of a handle and a suffix. -/
def expand (s : Source) (handle : List Char) (suffix : Octets) : Except Fault Octets :=
  if handle.isEmpty then .ok suffix
  else match s.handles.lookup handle with
    | some expansion => .ok (expansion ++ suffix)
    | none => .error .undefinedTag

/-- The name of an anchor, where one is next. -/
def anchor (s : Source) : Option (List Char) × Source :=
  match s.tokens with
  | .anchor name :: _ => (some name, s.next)
  | _ => (none, s)

/-- A tag, where one is next. -/
def tag (s : Source) : Except Fault (Option Octets × Source) :=
  match s.tokens with
  | .tag handle suffix :: _ => do return (some (← s.expand handle suffix), s.next)
  | _ => .ok (none, s)

/-- An anchor and a tag, in either order, as far as they are next. -/
def properties (s : Source) : Except Fault (Option (List Char) × Option Octets × Source) := do
  match s.anchor with
  | (some name, s) => do
    let (tag, s) ← s.tag
    return (some name, tag, s)
  | (none, s) => do
    let (tag, s) ← s.tag
    if tag.isSome then
      let (name, s) := s.anchor
      return (name, tag, s)
    else return (none, none, s)

/-- The source where an anchor starts, if there is one. -/
def startAnchor (s : Source) (name : Option (List Char)) : Source :=
  match name with
  | some name => { s with anchors := s.anchors.start name }
  | none => s

/-- The source where the node of an anchor is read, if there is one; `before` anchors
have started before it. -/
def finishAnchor (s : Source) (name : Option (List Char)) (before : Nat) (node : Node) :
    Source :=
  if name.isSome then { s with anchors := s.anchors.finish before node } else s

end Source

/-- The tag that says no more than that there is a tag. -/
def plainTag : Octets := octets "!"

/-- Whether an entry of a block sequence is left out. Without an indentation of its
own the sequence also ends at the next key. -/
def isItemEmpty (indentless : Bool) : List Token → Bool
  | .blockEntry :: _ | .blockEnd :: _ => true
  | .key :: _ | .value :: _ => indentless
  | _ => false

/-- Whether a key or a value of a block mapping is left out. -/
def isEntryEmpty : List Token → Bool
  | .key :: _ | .value :: _ | .blockEnd :: _ => true
  | _ => false

/-- Whether a value in a flow collection is left out. -/
def isFlowEmpty (closing : Token) : List Token → Bool
  | t :: _ => t == .flowEntry || t == closing
  | [] => false

/-- Whether a key in a flow collection is left out. -/
def isFlowKeyEmpty (closing : Token) : List Token → Bool
  | t :: rest => t == .value || isFlowEmpty closing (t :: rest)
  | [] => false

/-- The source behind the comma in front of an entry of a flow collection; the first
entry has none. -/
def skipComma (first : Bool) (s : Source) : Except Fault Source :=
  match first, s.tokens with
  | true, _ => .ok s
  | false, .flowEntry :: _ => .ok s.next
  | false, _ => .error .unexpected

mutual

/-- A node. Block collections are only read where `block`, and `indentless` allows a
block sequence without an indentation of its own. -/
def readNode : Nat → Bool → Bool → Source → Except Fault (Node × Source)
  | 0, _, _, _ => .error .unexpected
  | fuel + 1, block, indentless, s =>
    match s.tokens with
    | .alias name :: _ =>
      match s.anchors.number? name with
      | some number => .ok (.alias number, s.next)
      | none => .error .unknownAlias
    | _ => do
      let (name, tag, s) ← s.properties
      let before := s.anchors.nodes.length
      let (node, s) ←
        readContent fuel block indentless tag (name.isSome || tag.isSome) (s.startAnchor name)
      return (node, s.finishAnchor name before node)

/-- A node behind its anchor and tag; where it has either, the rest may be left
out. -/
def readContent : Nat → Bool → Bool → Option Octets → Bool → Source →
    Except Fault (Node × Source)
  | 0, _, _, _, _, _ => .error .unexpected
  | fuel + 1, block, indentless, tag, optional, s =>
    let otherwise := if optional then .ok (.scalar tag .plain [], s) else .error .unexpected
    match s.tokens with
    | .scalar style text :: _ =>
      .ok (.scalar (if tag = some plainTag then none else tag) style text, s.next)
    | .flowSequence :: _ => do
      let (items, s) ← readFlowItems fuel true s.next
      return (.sequence items, s)
    | .flowMapping :: _ => do
      let (entries, s) ← readFlowEntries fuel true s.next
      return (.mapping entries, s)
    | .blockEntry :: _ =>
      if indentless then do
        let (items, s) ← readItems fuel true s
        return (.sequence items, s)
      else otherwise
    | .blockSequence :: _ =>
      if block then do
        let (items, s) ← readItems fuel false s.next
        return (.sequence items, s)
      else otherwise
    | .blockMapping :: _ =>
      if block then do
        let (entries, s) ← readEntries fuel s.next
        return (.mapping entries, s)
      else otherwise
    | _ => otherwise

def readItems : Nat → Bool → Source → Except Fault (List Node × Source)
  | 0, _, _ => .error .unexpected
  | fuel + 1, indentless, s =>
    match s.tokens with
    | .blockEntry :: rest => do
      let (item, s) ←
        if isItemEmpty indentless rest then .ok (.empty, s.next)
        else readNode fuel true false s.next
      let (items, s) ← readItems fuel indentless s
      return (item :: items, s)
    | tokens =>
      if indentless then .ok ([], s)
      else if tokens.head? = some .blockEnd then .ok ([], s.next)
      else .error .unexpected

def readEntries : Nat → Source → Except Fault (List (Node × Node) × Source)
  | 0, _ => .error .unexpected
  | fuel + 1, s =>
    match s.tokens with
    | .key :: rest => do
      let (key, s) ←
        if isEntryEmpty rest then .ok (.empty, s.next) else readNode fuel true true s.next
      let (value, s) ← readValue fuel s
      let (entries, s) ← readEntries fuel s
      return ((key, value) :: entries, s)
    | .blockEnd :: _ => .ok ([], s.next)
    | _ => .error .unexpected

/-- The value of an entry of a block mapping. -/
def readValue : Nat → Source → Except Fault (Node × Source)
  | 0, _ => .error .unexpected
  | fuel + 1, s =>
    match s.tokens with
    | .value :: rest =>
      if isEntryEmpty rest then .ok (.empty, s.next) else readNode fuel true true s.next
    | _ => .ok (.empty, s)

/-- The entries of a flow sequence. A key opens a mapping of one entry. -/
def readFlowItems : Nat → Bool → Source → Except Fault (List Node × Source)
  | 0, _, _ => .error .unexpected
  | fuel + 1, first, s =>
    if s.tokens.head? = some .flowSequenceEnd then .ok ([], s.next)
    else do
      let s ← skipComma first s
      match s.tokens with
      | .flowSequenceEnd :: _ => return ([], s.next)
      | .key :: rest =>
        let (key, s) ←
          if isFlowKeyEmpty .flowSequenceEnd rest then .ok (.empty, s.next.next)
          else readNode fuel false false s.next
        let (value, s) ← readFlowValue fuel .flowSequenceEnd s
        let (items, s) ← readFlowItems fuel false s
        return (.mapping [(key, value)] :: items, s)
      | _ =>
        let (item, s) ← readNode fuel false false s
        let (items, s) ← readFlowItems fuel false s
        return (item :: items, s)

/-- The entries of a flow mapping. A node that is no key stands for a key without a
value. -/
def readFlowEntries : Nat → Bool → Source → Except Fault (List (Node × Node) × Source)
  | 0, _, _ => .error .unexpected
  | fuel + 1, first, s =>
    if s.tokens.head? = some .flowMappingEnd then .ok ([], s.next)
    else do
      let s ← skipComma first s
      match s.tokens with
      | .flowMappingEnd :: _ => return ([], s.next)
      | .key :: rest =>
        let (key, s) ←
          if isFlowKeyEmpty .flowMappingEnd rest then .ok (.empty, s.next)
          else readNode fuel false false s.next
        let (value, s) ← readFlowValue fuel .flowMappingEnd s
        let (entries, s) ← readFlowEntries fuel false s
        return ((key, value) :: entries, s)
      | _ =>
        let (key, s) ← readNode fuel false false s
        let (entries, s) ← readFlowEntries fuel false s
        return ((key, .empty) :: entries, s)

/-- The value of an entry of a flow collection. -/
def readFlowValue : Nat → Token → Source → Except Fault (Node × Source)
  | 0, _, _ => .error .unexpected
  | fuel + 1, closing, s =>
    match s.tokens with
    | .value :: rest =>
      if isFlowEmpty closing rest then .ok (.empty, s.next)
      else readNode fuel false false s.next
    | _ => .ok (.empty, s)

end

/-! ## Documents -/

/-- The handles that need no directive. -/
def standardHandles : List (List Char × Octets) :=
  [(primaryHandle, plainTag), (['!', '!'], octets "tag:yaml.org,2002:")]

/-- The directives in front of a document: the handles they define, and the tokens
behind them. `versioned` says whether the version is given already. -/
def readDirectives (versioned : Bool) (handles : List (List Char × Octets)) :
    List Token → Except Fault (List (List Char × Octets) × List Token)
  | .version major minor :: rest =>
    if versioned ∨ major ≠ 1 ∨ (minor ≠ 1 ∧ minor ≠ 2) then .error .directive
    else readDirectives true handles rest
  | .tagDirective handle expansion :: rest =>
    if (handles.lookup handle).isSome then .error .directive
    else readDirectives versioned ((handle, expansion) :: handles) rest
  | tokens => .ok (handles, tokens)

/-- Whether a document that starts with its mark is empty. -/
def isDocumentEmpty : List Token → Bool
  | [] | .version .. :: _ | .tagDirective .. :: _ | .documentStart :: _ | .documentEnd :: _ =>
    true
  | _ => false

/-- The only document of a text, read up to its end. -/
def readOnlyDocument (s : Source) : Except Fault Document := do
  let (root, s) ←
    if isDocumentEmpty s.tokens then .ok (.empty, s)
    else readNode (4 * s.tokens.length + 4) true false s
  if (s.tokens.dropWhile (· == .documentEnd)).isEmpty then return ⟨root, s.anchors⟩
  else throw .manyDocuments

/-- The only document that tokens spell. Without tokens it is empty. Directives and
the mark of its start may stand in front of it. -/
def readDocument : List Token → Except Fault Document
  | [] => .ok ⟨.empty, {}⟩
  | tokens => do
    let (handles, rest) ← readDirectives false [] tokens
    if rest.head? = some .documentStart then
      readOnlyDocument { tokens := rest.tail, handles := handles ++ standardHandles }
    else if rest.length < tokens.length then throw .unexpected
    else if rest.head? = some .documentEnd then throw .unexpected
    else readOnlyDocument { tokens := rest, handles := standardHandles }

def document (text : List Char) : Except Fault Document := do readDocument (← tokens text)

end CarrierAuth.Yaml
