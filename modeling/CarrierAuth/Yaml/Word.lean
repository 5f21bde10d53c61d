import CarrierAuth.Text.Digits
import CarrierAuth.Yaml.Cursor
import CarrierAuth.Yaml.Token

/-
  YAML words — the names of anchors, the tags, and the directives.

  A reader takes the cursor at the word's first character, its indicator, and gives
  the token and the cursor behind it.
-/
namespace CarrierAuth.Yaml

/-! ## Anchors -/

/-- The indicators that may follow the name of an anchor at once. -/
def endsAnchor : List Char → Bool
  | [] => true
  | c :: _ => isGap c || ['?', ':', ',', ']', '\x7d', '%', '@', '\x60'].contains c

/-- The name behind the indicator of an anchor or an alias. -/
def anchorName (c : Cursor) : Except Fault (List Char × Cursor) :=
  let (name, c) := (c.skip 1).span isWordChar
  if !name.isEmpty && endsAnchor c.rest then .ok (name, c) else .error .anchor

/-! ## Tags -/

/-- Whether a character may stand for itself in a tag; brackets and commas only in a
tag given in full. -/
def isTagChar (full : Bool) (c : Char) : Bool :=
  isWordChar c
    || [';', '/', '?', ':', '@', '&', '=', '+', '$', '.', '!', '~', '*', '\'', '(', ')'].contains c
    || (full && (c == ',' || c == '[' || c == ']'))

/-- The number of octets of a character by its first one. -/
def sequenceLength? (b : Nat) : Option Nat :=
  if b < 0x80 then some 1
  else if 0xc0 ≤ b ∧ b < 0xe0 then some 2
  else if 0xe0 ≤ b ∧ b < 0xf0 then some 3
  else if 0xf0 ≤ b ∧ b < 0xf8 then some 4
  else none

/-- The octets of a tag's text and what follows it. A percent sign gives an octet in
hexadecimal; `more` octets of a character are still to come. -/
def tagText (full : Bool) : Nat → List Char → Option (Octets × List Char)
  | more, '%' :: a :: b :: rest =>
    match Text.digitValue? a, Text.digitValue? b with
    | some high, some low =>
      let octet := 16 * high + low
      let left? := match more with
        | 0 => (sequenceLength? octet).map (· - 1)
        | more + 1 => if 0x80 ≤ octet ∧ octet < 0xc0 then some more else none
      match left? with
      | some left => (tagText full left rest).map fun (text, after) =>
          (UInt8.ofNat octet :: text, after)
      | none => none
    | _, _ => none
  | 0, c :: rest =>
    if c = '%' then none
    else if isTagChar full c then
      (tagText full 0 rest).map fun (text, after) => (String.utf8EncodeChar c ++ text, after)
    else some ([], c :: rest)
  | 0, [] => some ([], [])
  | _ + 1, _ => none

/-- The text of a tag at a cursor, up to its first NUL, and the cursor behind it. -/
def tagSuffix (full : Bool) (c : Cursor) : Except Fault (Octets × Cursor) :=
  match tagText full 0 c.rest with
  | none => .error .tag
  | some (text, after) =>
    .ok (text.takeWhile (· != 0), c.skip (c.rest.length - after.length))

/-- The handle at the start of a tag: an exclamation mark, a word, and another
exclamation mark, where there is one. -/
def tagHandle (c : Cursor) : List Char × Cursor :=
  let (word, c) := (c.skip 1).span isWordChar
  if c.rest.head? = some '!' then ('!' :: word ++ ['!'], c.skip 1) else ('!' :: word, c)

/-- The handle that stands alone. -/
def primaryHandle : List Char := ['!']

/-- Whether a handle ends with a second exclamation mark. -/
def isFullHandle (handle : List Char) : Bool :=
  2 ≤ handle.length && handle.getLast? == some '!'

/-- A tag of angle brackets, which is given in full. -/
def fullTag (c : Cursor) : Except Fault (Token × Cursor) := do
  let (text, c') ← tagSuffix true (c.skip 2)
  if c'.mark.index = c.mark.index + 2 ∨ c'.rest.head? ≠ some '>' then throw .tag
  return (.tag [] text, c'.skip 1)

def shortTag (c : Cursor) : Except Fault (Token × Cursor) := do
  let (handle, c) := tagHandle c
  let (suffix, c') ← tagSuffix false c
  if isFullHandle handle then
    if c'.mark.index = c.mark.index then throw .tag
    return (.tag handle suffix, c')
  else
    let suffix := octetsOf handle.tail ++ suffix
    if suffix.isEmpty then return (.tag [] (octetsOf primaryHandle), c')
    else return (.tag primaryHandle suffix, c')

/-- A tag, and a separator behind it; in a flow collection a comma will do. -/
def tag (inFlow : Bool) (c : Cursor) : Except Fault (Token × Cursor) := do
  let (token, c) ← if (c.rest.drop 1).head? = some '<' then fullTag c else shortTag c
  if startsGap c.rest || (inFlow && c.rest.head? == some ',') then return (token, c)
  else throw .tag

/-! ## Directives -/

/-- The most digits in a part of a version. -/
def versionDigits : Nat := 9

def versionNumber (c : Cursor) : Except Fault (Nat × Cursor) :=
  let (digits, c) := c.span Char.isDigit
  match Text.digitsValue? 10 digits with
  | some n => if digits.length ≤ versionDigits then .ok (n, c) else .error .directive
  | none => .error .directive

/-- The version a text is written for. -/
def versionDirective (c : Cursor) : Except Fault (Token × Cursor) := do
  let (major, c) ← versionNumber c.skipBlanks
  if c.rest.head? ≠ some '.' then throw .directive
  let (minor, c) ← versionNumber (c.skip 1)
  return (.version major minor, c)

/-- A handle and what it stands for. -/
def tagDirective (c : Cursor) : Except Fault (Token × Cursor) := do
  let c := c.skipBlanks
  if c.rest.head? ≠ some '!' then throw .directive
  let (handle, c) := tagHandle c
  unless handle = primaryHandle ∨ isFullHandle handle do throw .directive
  unless (c.rest.head?.map isBlank).getD false do throw .directive
  let c := c.skipBlanks
  let (text, c') ← tagSuffix true c
  if c'.mark.index = c.mark.index ∨ ¬ startsGap c'.rest then throw .directive
  return (.tagDirective handle text, c')

/-- A directive, up to the end of its line. -/
def directive (c : Cursor) : Except Fault (Token × Cursor) := do
  let (name, c) := (c.skip 1).span isWordChar
  unless startsGap c.rest do throw .directive
  let (token, c) ←
    if name = "YAML".toList then versionDirective c
    else if name = "TAG".toList then tagDirective c
    else throw .directive
  match c.endLine with
  | some c => return (token, c)
  | none => throw .directive

end CarrierAuth.Yaml
