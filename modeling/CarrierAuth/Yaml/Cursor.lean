/-
  YAML text — its characters, its lines, and a place in it.

  A line ends with LF, CR, CR LF, NEL, LS or PS; the first four read as LF. White
  space between two runs of a scalar's text is a `Gap`: blanks stay as they are,
  one line break reads as a space, and more of them as one fewer.
-/
namespace CarrierAuth.Yaml

/-- Why a YAML text cannot be read. -/
inductive Fault where
  | character
  | indentation
  | directive
  | anchor
  | tag
  | scalar
  | key
  | unexpected
  | undefinedTag
  | unknownAlias
  | manyDocuments
  deriving DecidableEq, Repr

/-- Whether a character may stand in a YAML text. -/
def isAllowed (c : Char) : Bool :=
  let n := c.toNat
  n == 0x9 || n == 0xa || n == 0xd || (0x20 ≤ n && n ≤ 0x7e) || n == 0x85
    || (0xa0 ≤ n && n ≤ 0xd7ff) || (0xe000 ≤ n && n ≤ 0xfffd) || 0x10000 ≤ n

/-- Whether a character ends a line. -/
def isBreak (c : Char) : Bool :=
  c == '\n' || c == '\r' || c == '\u0085' || c == '\u2028' || c == '\u2029'

/-- The space and the tab. -/
def isBlank (c : Char) : Bool := c == ' ' || c == '\t'

/-- Whether a character separates words. -/
def isGap (c : Char) : Bool := isBlank c || isBreak c

/-- Whether a text is at its end or starts with a separator. -/
def startsGap : List Char → Bool
  | [] => true
  | c :: _ => isGap c

/-- Letters, digits, the underscore and the hyphen. -/
def isWordChar (c : Char) : Bool := c.isAlphanum || c == '_' || c == '-'

/-- The mark that may start a line and is skipped. -/
def byteOrderMark : Char := '\uFEFF'

/-- Whether a character is the first half of a CR LF. -/
def isHalfBreak (c : Char) (rest : List Char) : Bool := c == '\r' && rest.head? == some '\n'

/-- What a line break reads as. -/
def breakAs (c : Char) : Char := if c = '\u2028' ∨ c = '\u2029' then c else '\n'

/-- A place in the text: characters before it, lines before it, and characters
before it in its line. -/
structure Mark where
  index : Nat := 0
  line : Nat := 0
  column : Nat := 0
  deriving DecidableEq, Repr

namespace Mark

/-- The place a number of characters further on in the line. -/
def skip (m : Mark) (n : Nat := 1) : Mark := ⟨m.index + n, m.line, m.column + n⟩

/-- The start of the next line, one character further on. -/
def newLine (m : Mark) : Mark := ⟨m.index + 1, m.line + 1, 0⟩

end Mark

/-- A place in the text and the text from there on. -/
structure Cursor where
  mark : Mark
  rest : List Char
  deriving DecidableEq, Repr

namespace Cursor

/-- The cursor a number of characters further on in the line. -/
def skip (c : Cursor) (n : Nat := 1) : Cursor := ⟨c.mark.skip n, c.rest.drop n⟩

/-- The characters at the front that satisfy a test, and the cursor behind them. -/
def span (p : Char → Bool) (c : Cursor) : List Char × Cursor :=
  let taken := c.rest.takeWhile p
  (taken, c.skip taken.length)

/-- The cursor behind blanks. -/
def skipBlanks (c : Cursor) : Cursor := (c.span isBlank).2

/-- The cursor behind a comment, where there is one. -/
def skipComment (c : Cursor) : Cursor :=
  if c.rest.head? = some '#' then (c.span (!isBreak ·)).2 else c

/-- The cursor behind the line break it stands at; the same at the end. -/
def skipBreak (c : Cursor) : Cursor :=
  match c.rest with
  | [] => c
  | '\r' :: '\n' :: rest => ⟨(c.mark.skip 1).newLine, rest⟩
  | _ :: rest => ⟨c.mark.newLine, rest⟩

/-- The start of the next line, where nothing but blanks and a comment is left on
this one. -/
def endLine (c : Cursor) : Option Cursor :=
  let c := c.skipBlanks.skipComment
  match c.rest with
  | [] => some c
  | ch :: _ => if isBreak ch then some c.skipBreak else none

/-- Whether three characters of one kind and a separator start the line here. -/
def atDocumentMark (ch : Char) (c : Cursor) : Bool :=
  c.mark.column == 0 && [ch, ch, ch].isPrefixOf c.rest && startsGap (c.rest.drop 3)

/-- Whether the start or end of a document is marked here. -/
def atAnyDocumentMark (c : Cursor) : Bool := c.atDocumentMark '-' || c.atDocumentMark '.'

end Cursor

/-- White space between two runs of a scalar's text. -/
inductive Gap where
  | blanks (cs : List Char)
  /-- The first line break, `none` where it is escaped, and the ones after it. -/
  | breaks (first : Option Char) (more : List Char)
  deriving DecidableEq, Repr

namespace Gap

def empty : Gap := .blanks []

def hasBreak : Gap → Bool
  | .blanks _ => false
  | .breaks .. => true

/-- A gap with a blank behind it; blanks that start a line are dropped. -/
def addBlank (c : Char) : Gap → Gap
  | .blanks cs => .blanks (cs ++ [c])
  | g => g

/-- A gap with a line break behind it; blanks before it are dropped. -/
def addBreak (b : Char) : Gap → Gap
  | .blanks _ => .breaks (some b) []
  | .breaks first more => .breaks first (more ++ [b])

def text : Gap → List Char
  | .blanks cs => cs
  | .breaks (some '\n') [] => [' ']
  | .breaks (some '\n') more => more
  | .breaks first more => first.toList ++ more

end Gap

end CarrierAuth.Yaml
