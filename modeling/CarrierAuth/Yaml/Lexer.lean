import CarrierAuth.Yaml.Scalar

/-
  The lexer — from a YAML text to its tokens.

  A key is known for a key only when the colon behind it is reached, so the place
  of every word that may be one is kept as pending, one for each level of flow
  collections, and the mark of the key is put there later. The depth of the
  indentation is kept too: a word further right than it opens a block collection,
  and one further left closes those it leaves.
-/
namespace CarrierAuth.Yaml

/-- A word that may turn out to be a key. -/
structure PendingKey where
  /-- The number of tokens before it. -/
  place : Nat
  mark : Mark
  /-- Whether the text is faulty unless the word is a key. -/
  required : Bool
  deriving DecidableEq, Repr

/-- The most characters between the start of a key and its colon. -/
def keyReach : Nat := 1024

/-- Whether a word is too far back to be a key: on another line, or out of reach. -/
def PendingKey.isStale (k : PendingKey) (m : Mark) : Bool :=
  k.mark.line < m.line || k.mark.index + keyReach < m.index

structure Lexer where
  cursor : Cursor
  /-- The tokens found, newest first. -/
  tokens : List Token := []
  /-- The column of the innermost block collection. -/
  indent : Int := -1
  /-- The columns of the block collections around it, innermost first. -/
  outer : List Int := []
  /-- Whether a key may start here. -/
  keyAllowed : Bool := true
  /-- The pending key of this level of flow collections. -/
  pending : Option PendingKey := none
  /-- The pending keys of the levels around it, innermost first. -/
  flow : List (Option PendingKey) := []
  deriving DecidableEq, Repr

namespace Lexer

/-- Whether the lexer is inside a flow collection. -/
def inFlow (l : Lexer) : Bool := !l.flow.isEmpty

def push (l : Lexer) (t : Token) : Lexer := { l with tokens := t :: l.tokens }

/-- Adds a token where a number of tokens stand before it. -/
def pushAt (l : Lexer) (place : Nat) (t : Token) : Lexer :=
  let later := l.tokens.length - place
  { l with tokens := l.tokens.take later ++ t :: l.tokens.drop later }

/-- Adds a token and goes on behind its characters. -/
def pushOver (l : Lexer) (t : Token) (width : Nat) : Lexer :=
  { l with tokens := t :: l.tokens, cursor := l.cursor.skip width }

/-! ## Pending keys -/

def giveUp : Option PendingKey → Except Fault Unit
  | some k => if k.required then .error .key else .ok ()
  | none => .ok ()

/-- Keeps a pending key that is not stale. -/
def refresh (m : Mark) : Option PendingKey → Except Fault (Option PendingKey)
  | some k => if k.isStale m then (giveUp (some k)).map fun _ => none else .ok (some k)
  | none => .ok none

/-- Gives up the pending key of this level. -/
def dropPending (l : Lexer) : Except Fault Lexer :=
  (giveUp l.pending).map fun _ => { l with pending := none }

/-- Gives up all stale pending keys. -/
def dropStale (l : Lexer) : Except Fault Lexer := do
  let flow ← l.flow.mapM (refresh l.cursor.mark)
  let pending ← refresh l.cursor.mark l.pending
  return { l with flow := flow, pending := pending }

/-- Makes the word at the cursor the pending key, where a key may start. A word at
the column of a block collection has to be one. -/
def savePending (l : Lexer) : Except Fault Lexer :=
  if l.keyAllowed then do
    let l ← l.dropPending
    let required := !l.inFlow && l.indent == l.cursor.mark.column
    return { l with pending := some ⟨l.tokens.length, l.cursor.mark, required⟩ }
  else .ok l

/-! ## Indentation -/

/-- Closes the block collections that a column lies left of: those at `indent` and
at the columns around it. -/
def closeTo (column : Int) : Int → List Int → List Token → Int × List Int × List Token
  | indent, [], tokens => (indent, [], tokens)
  | indent, next :: outer, tokens =>
    if column < indent then closeTo column next outer (.blockEnd :: tokens)
    else (indent, next :: outer, tokens)

/-- Closes the block collections that a column lies left of. -/
def unroll (l : Lexer) (column : Int) : Lexer :=
  if l.inFlow then l
  else
    let (indent, outer, tokens) := closeTo column l.indent l.outer l.tokens
    { l with indent := indent, outer := outer, tokens := tokens }

/-- Opens a block collection at a column right of the innermost one; its token goes
where a number of tokens stand before it. -/
def roll (l : Lexer) (column : Nat) (place : Nat) (t : Token) : Lexer :=
  if !l.inFlow && l.indent < column then
    { l.pushAt place t with indent := column, outer := l.indent :: l.outer }
  else l

/-- Opens a block collection at the cursor. In a block an entry may only start where
a key may. -/
def rollHere (l : Lexer) (t : Token) : Except Fault Lexer :=
  if l.inFlow then .ok l
  else if l.keyAllowed then .ok (l.roll l.cursor.mark.column l.tokens.length t)
  else .error .unexpected

/-! ## White space -/

/-- The cursor and `keyAllowed` behind white space, comments and line breaks. A tab
may not stand where a key may start. `inComment` says whether a comment is open. -/
def skipGap (inFlow : Bool) (inComment keyAllowed : Bool) (m : Mark) :
    List Char → Cursor × Bool
  | [] => (⟨m, []⟩, keyAllowed)
  | c :: rest =>
    if isHalfBreak c rest then skipGap inFlow inComment keyAllowed (m.skip 1) rest
    else if isBreak c then skipGap inFlow false (keyAllowed || !inFlow) m.newLine rest
    else if inComment then skipGap inFlow true keyAllowed (m.skip 1) rest
    else if c = '#' then skipGap inFlow true keyAllowed (m.skip 1) rest
    else if c = ' ' ∨ (c = '\t' ∧ (inFlow ∨ ¬ keyAllowed))
        ∨ (c = byteOrderMark ∧ m.column = 0) then
      skipGap inFlow false keyAllowed (m.skip 1) rest
    else (⟨m, c :: rest⟩, keyAllowed)

/-- The lexer at the next word. -/
def toNextWord (l : Lexer) : Except Fault Lexer := do
  let (cursor, keyAllowed) :=
    skipGap l.inFlow false l.keyAllowed l.cursor.mark l.cursor.rest
  let l ← dropStale { l with cursor := cursor, keyAllowed := keyAllowed }
  return l.unroll l.cursor.mark.column

/-! ## Words -/

def finish (l : Lexer) : Except Fault (List Token) := do
  let l ← (l.unroll (-1)).dropPending
  return l.tokens.reverse

def lexDirective (l : Lexer) : Except Fault Lexer := do
  let l ← (l.unroll (-1)).dropPending
  let (token, cursor) ← directive l.cursor
  return { l.push token with cursor := cursor, keyAllowed := false }

def lexDocumentMark (l : Lexer) (t : Token) : Except Fault Lexer := do
  let l ← (l.unroll (-1)).dropPending
  return { l.pushOver t 3 with keyAllowed := false }

def lexFlowStart (l : Lexer) (t : Token) : Except Fault Lexer := do
  let l ← l.savePending
  return { l.pushOver t 1 with flow := l.pending :: l.flow, pending := none, keyAllowed := true }

def lexFlowEnd (l : Lexer) (t : Token) : Except Fault Lexer := do
  let l ← l.dropPending
  return { l.pushOver t 1 with
    flow := l.flow.tail, pending := l.flow.head?.getD none, keyAllowed := false }

def lexFlowEntry (l : Lexer) : Except Fault Lexer := do
  let l ← l.dropPending
  return { l.pushOver .flowEntry 1 with keyAllowed := true }

/-- The hyphen of an entry of a block sequence. -/
def lexBlockEntry (l : Lexer) : Except Fault Lexer := do
  let l ← (← l.rollHere .blockSequence).dropPending
  return { l.pushOver .blockEntry 1 with keyAllowed := true }

/-- The question mark of a key. -/
def lexKey (l : Lexer) : Except Fault Lexer := do
  let l ← (← l.rollHere .blockMapping).dropPending
  return { l.pushOver .key 1 with keyAllowed := !l.inFlow }

/-- The colon of a value. It makes the pending word a key. -/
def lexValue (l : Lexer) : Except Fault Lexer :=
  match l.pending with
  | some k =>
    let l := (l.pushAt k.place .key).roll k.mark.column k.place .blockMapping
    .ok { l.pushOver .value 1 with pending := none, keyAllowed := false }
  | none => do
    let l ← l.rollHere .blockMapping
    return { l.pushOver .value 1 with keyAllowed := !l.inFlow }

def lexAnchor (l : Lexer) (token : List Char → Token) : Except Fault Lexer := do
  let l ← l.savePending
  let (name, cursor) ← anchorName l.cursor
  return { l.push (token name) with cursor := cursor, keyAllowed := false }

def lexTag (l : Lexer) : Except Fault Lexer := do
  let l ← l.savePending
  let (token, cursor) ← tag l.inFlow l.cursor
  return { l.push token with cursor := cursor, keyAllowed := false }

def lexBlockScalar (l : Lexer) (style : Style) : Except Fault Lexer := do
  let l ← l.dropPending
  let (text, cursor) ← blockScalar (style == .literal) l.indent (l.cursor.skip 1)
  return { l.push (.scalar style text) with cursor := cursor, keyAllowed := true }

def lexQuoted (l : Lexer) (mark : Char) : Except Fault Lexer := do
  let l ← l.savePending
  let inside := l.cursor.skip 1
  let (text, cursor) ←
    if mark = '\'' then singleQuoted .empty inside.mark inside.rest
    else doubleQuoted .none .empty inside.mark inside.rest
  return { l.push (.scalar .quoted text) with cursor := cursor, keyAllowed := false }

/-- A plain scalar. Behind its last line a key may start. -/
def lexPlain (l : Lexer) : Except Fault Lexer := do
  let l ← l.savePending
  let (text, hasBreak, cursor) ← plainScalar l.inFlow (l.indent + 1) l.cursor
  return { l.push (.scalar .plain text) with cursor := cursor, keyAllowed := hasBreak }

/-- Whether a plain scalar can start with a character; some indicators may start one
when more text follows. -/
def startsPlain (inFlow : Bool) (c : Char) (rest : List Char) : Bool :=
  if c == '-' then !(rest.head?.map isBlank).getD false
  else if c == '?' || c == ':' then !inFlow && !startsGap rest
  else !isGap c && !isIndicator c

/-- The word that starts with a character. -/
def lexWord (l : Lexer) (c : Char) (rest : List Char) : Except Fault Lexer :=
  if l.cursor.mark.column = 0 ∧ c = '%' then l.lexDirective
  else if l.cursor.atDocumentMark '-' then l.lexDocumentMark .documentStart
  else if l.cursor.atDocumentMark '.' then l.lexDocumentMark .documentEnd
  else if c = '[' then l.lexFlowStart .flowSequence
  else if c = '\x7b' then l.lexFlowStart .flowMapping
  else if c = ']' then l.lexFlowEnd .flowSequenceEnd
  else if c = '\x7d' then l.lexFlowEnd .flowMappingEnd
  else if c = ',' then l.lexFlowEntry
  else if c = '-' ∧ startsGap rest then l.lexBlockEntry
  else if c = '?' ∧ (l.inFlow ∨ startsGap rest) then l.lexKey
  else if c = ':' ∧ (l.inFlow ∨ startsGap rest) then l.lexValue
  else if c = '*' then l.lexAnchor .alias
  else if c = '&' then l.lexAnchor .anchor
  else if c = '!' then l.lexTag
  else if c = '|' ∧ ¬ l.inFlow then l.lexBlockScalar .literal
  else if c = '>' ∧ ¬ l.inFlow then l.lexBlockScalar .folded
  else if c = '\'' ∨ c = '"' then l.lexQuoted c
  else if startsPlain l.inFlow c rest then l.lexPlain
  else .error .unexpected

/-- Reads words until the end of the text; `fuel` bounds their number. -/
def run : Nat → Lexer → Except Fault (List Token)
  | 0, _ => .error .unexpected
  | fuel + 1, l => do
    let l ← l.toNextWord
    match l.cursor.rest with
    | [] => l.finish
    | c :: rest => run fuel (← l.lexWord c rest)

end Lexer

/-- The tokens of a text. Every word takes at least one character. -/
def tokens (text : List Char) : Except Fault (List Token) :=
  if text.all isAllowed then Lexer.run (text.length + 1) { cursor := ⟨{}, text⟩ }
  else .error .character

end CarrierAuth.Yaml
