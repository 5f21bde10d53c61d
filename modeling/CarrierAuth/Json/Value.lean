import CarrierAuth.Text.Digits

/-
  JSON values — what a JSON text spells.

  Numbers and strings are kept as they are written: a string may name half of a
  surrogate pair as long as nobody asks for its text.
-/
namespace CarrierAuth.Json

inductive Value where
  | null
  | flag (b : Bool)
  | number (text : List Char)
  /-- What stands between the quotes. -/
  | string (raw : List Char)
  | array (items : List Value)
  | object (entries : List (List Char × Value))

def isSpace (c : Char) : Bool := c == ' ' || c == '\n' || c == '\t' || c == '\r'

def skipSpace (text : List Char) : List Char := text.dropWhile isSpace

/-- What follows a text at the front of another. -/
def dropFront (front text : List Char) : Option (List Char) :=
  if front.isPrefixOf text then some (text.drop front.length) else none

/-- What stands between the quotes of a string, from behind the first one on, and what
follows the last one. -/
def readString : List Char → Option (List Char × List Char)
  | '\\' :: 'u' :: a :: b :: c :: d :: rest =>
    if (Text.digitsValue? 16 [a, b, c, d]).isSome then
      (readString rest).map fun (raw, after) =>
        ('\\' :: 'u' :: a :: b :: c :: d :: raw, after)
    else none
  | '\\' :: c :: rest =>
    if ['"', '\\', '/', 'b', 'f', 'n', 'r', 't'].contains c then
      (readString rest).map fun (raw, after) => ('\\' :: c :: raw, after)
    else none
  | c :: rest =>
    if c = '"' then some ([], rest)
    else if c = '\\' ∨ c.toNat < 0x20 then none
    else (readString rest).map fun (raw, after) => (c :: raw, after)
  | [] => none

/-- Digits at the front of a text, at least one, and what follows them. -/
def readDigits (text : List Char) : Option (List Char × List Char) :=
  let digits := text.takeWhile Char.isDigit
  if digits.isEmpty then none else some (digits, text.dropWhile Char.isDigit)

/-- The digits of a number in front of its point; only a lone zero starts with a
zero. -/
def readWhole (text : List Char) : Option (List Char × List Char) := do
  let (digits, rest) ← readDigits text
  if digits.head? = some '0' ∧ digits.length ≠ 1 then none else some (digits, rest)

/-- The point of a number and the digits behind it, where it has a point. -/
def readFraction : List Char → Option (List Char × List Char)
  | '.' :: rest => (readDigits rest).map fun (digits, rest) => ('.' :: digits, rest)
  | text => some ([], text)

/-- The exponent of a number, where it has one. -/
def readExponent : List Char → Option (List Char × List Char)
  | c :: rest =>
    if c = 'e' ∨ c = 'E' then
      match rest with
      | s :: more =>
        if s = '+' ∨ s = '-' then
          (readDigits more).map fun (digits, rest) => (c :: s :: digits, rest)
        else (readDigits rest).map fun (digits, rest) => (c :: digits, rest)
      | [] => none
    else some ([], c :: rest)
  | [] => some ([], [])

def readNumber (text : List Char) : Option (List Char × List Char) := do
  let (sign, text) := match text with
    | '-' :: rest => (['-'], rest)
    | text => ([], text)
  let (whole, text) ← readWhole text
  let (fraction, text) ← readFraction text
  let (exponent, text) ← readExponent text
  return (sign ++ whole ++ fraction ++ exponent, text)

/-- A value that is a word of its own. -/
def readWord (text : List Char) : Option (Value × List Char) :=
  match dropFront "null".toList text with
  | some rest => some (.null, rest)
  | none => match dropFront "true".toList text with
    | some rest => some (.flag true, rest)
    | none => (dropFront "false".toList text).map fun rest => (.flag false, rest)

mutual

def readValue : Nat → List Char → Option (Value × List Char)
  | 0, _ => none
  | fuel + 1, text =>
    match skipSpace text with
    | '"' :: rest => do
      let (raw, rest) ← readString rest
      return (.string raw, rest)
    | '[' :: rest => do
      let (items, rest) ← readItems fuel true rest
      return (.array items, rest)
    | '\x7b' :: rest => do
      let (entries, rest) ← readEntries fuel true rest
      return (.object entries, rest)
    | c :: rest =>
      if c = '-' ∨ c.isDigit then do
        let (number, rest) ← readNumber (c :: rest)
        return (.number number, rest)
      else readWord (c :: rest)
    | [] => none

/-- The items of an array behind its bracket or behind an item, up to the closing
bracket, and what follows that. -/
def readItems : Nat → Bool → List Char → Option (List Value × List Char)
  | 0, _, _ => none
  | fuel + 1, first, text =>
    let text := skipSpace text
    match text with
    | ']' :: rest => some ([], rest)
    | _ => do
      let text ← if first then some text else dropFront [','] text
      let (item, rest) ← readValue fuel text
      let (items, rest) ← readItems fuel false rest
      return (item :: items, rest)

/-- The entries of an object behind its brace or behind an entry, up to the closing
brace, and what follows that. -/
def readEntries : Nat → Bool → List Char → Option (List (List Char × Value) × List Char)
  | 0, _, _ => none
  | fuel + 1, first, text =>
    let text := skipSpace text
    match text with
    | '\x7d' :: rest => some ([], rest)
    | _ => do
      let text ← if first then some text else dropFront [','] text
      let text ← dropFront ['"'] (skipSpace text)
      let (key, rest) ← readString text
      let rest ← dropFront [':'] (skipSpace rest)
      let (value, rest) ← readValue fuel rest
      let (entries, rest) ← readEntries fuel false rest
      return ((key, value) :: entries, rest)

end

def ofText? (text : List Char) : Option Value := do
  let (value, rest) ← readValue (2 * text.length + 1) text
  if (skipSpace rest).isEmpty then some value else none

end CarrierAuth.Json
