import CarrierAuth.Schema
import CarrierAuth.Yaml.Format

/-
  Writing YAML — block style, one entry a line, records indented by two.

  A text is written plain where it would be read back as that text. Otherwise it is
  put in single quotes, or in double quotes where it holds characters that only an
  escape can show. A text of several lines is a literal block.
-/
namespace CarrierAuth.Yaml

/-! ## What a text would be read as -/

/-- The number of a spelling in decimal digits, with a point or an exponent or both:
its digits, and the power of ten they are multiplied by. -/
def readDecimal? (text : List Char) : Option (Nat × Int) := do
  let whole := text.takeWhile Char.isDigit
  let rest := text.dropWhile Char.isDigit
  let (fraction, rest) := match rest with
    | '.' :: rest => (rest.takeWhile Char.isDigit, rest.dropWhile Char.isDigit)
    | rest => ([], rest)
  guard (!(whole ++ fraction).isEmpty)
  let digits ← Text.digitsValue? 10 (whole ++ fraction)
  let exponent ← match rest with
    | [] => some 0
    | c :: rest =>
      let (negative, digits) := splitSign rest
      if c = 'e' ∨ c = 'E' then
        (Text.digitsValue? 10 digits).map fun n => if negative then -(n : Int) else n
      else none
  return (digits, exponent - fraction.length)

/-- The least number that is too large for a floating-point number of 64 bits. -/
def floatLimit : Nat := Nat.pow 2 1024 - Nat.pow 2 970

/-- Whether digits times a power of ten stay below the limit of floating-point
numbers. The number of digits tells it but for numbers near the limit. -/
def isFinite (digits : Nat) (exponent : Int) : Bool :=
  let length := (Nat.toDigits 10 digits).length
  if digits = 0 ∨ (length : Int) + exponent ≤ 308 then true
  else if (length : Int) + exponent > 310 then false
  else digits * Nat.pow 10 exponent.toNat < floatLimit * Nat.pow 10 (-exponent).toNat

/-- The spellings of infinities and of no number. -/
def floatNames : List String :=
  [".inf", ".Inf", ".INF", "+.inf", "+.Inf", "+.INF", "-.inf", "-.Inf", "-.INF",
    ".nan", ".NaN", ".NAN"]

/-- Whether a spelling is a floating-point number. -/
def isFloat (text : List Char) : Bool :=
  floatNames.contains (String.ofList text)
    || match readDecimal? (splitSign text).2 with
      | some (digits, exponent) => isFinite digits exponent
      | none => false

/-- Whether a spelling is a number that 128 bits can hold. -/
def isLargeInteger (text : List Char) : Bool :=
  match readInteger? text with
  | some n => -(Nat.pow 2 127 : Int) ≤ n && n < (Nat.pow 2 128 : Int)
  | none => false

/-- Whether a plain scalar of this text would not be read as text. -/
def isSpelled (text : List Char) : Bool :=
  isNull text || (readFlag? text).isSome || isLargeInteger text || hasLeadingZero text
    || isFloat text

/-! ## How a text may be written -/

/-- Whether a character can be shown as it is. -/
def isPrintable (c : Char) : Bool :=
  let n := c.toNat
  n == 0xa || (0x20 ≤ n && n ≤ 0x7e) || (0xa0 ≤ n && n ≤ 0xd7ff)
    || (0xe000 ≤ n && n ≤ 0xfffd && n != 0xfeff) || 0x10000 ≤ n

/-- Whether a plain scalar would end inside a text, at a colon or a comment. -/
def endsEarly : List Char → Bool
  | [] => false
  | c :: rest =>
    (c == ':' && startsGap rest) || (isGap c && rest.head? == some '#') || endsEarly rest

/-- Whether the start of a text keeps it from being a plain scalar. -/
def startsBadly (text : List Char) : Bool :=
  ['-', '-', '-'].isPrefixOf text || ['.', '.', '.'].isPrefixOf text
    || match text with
      | [] => false
      | c :: rest => isIndicator c || ((c == '?' || c == '-') && startsGap rest)

/-- Whether two kinds of characters stand side by side in a text. -/
def hasPair (p q : Char → Bool) : List Char → Bool
  | a :: b :: rest => (p a && q b) || hasPair p q (b :: rest)
  | _ => false

/-- Whether a text has a character of a kind at its end. -/
def endsWith (p : Char → Bool) (text : List Char) : Bool := (text.getLast?.map p).getD false

def isSpace (c : Char) : Bool := c == ' '

/-- Whether a text has to be in double quotes whatever else it holds. -/
def needsEscapes (text : List Char) : Bool :=
  !text.all isPrintable || hasPair isSpace isBreak text

def allowsPlain (text : List Char) : Bool :=
  !needsEscapes text && !text.any isBreak && !text.head?.any isSpace && !endsWith isSpace text
    && !startsBadly text && !endsEarly text

def allowsSingleQuotes (text : List Char) : Bool :=
  !needsEscapes text && !hasPair isBreak isSpace text

def allowsLiteral (text : List Char) : Bool := !needsEscapes text && !endsWith isSpace text

/-- The style of a text. -/
inductive Layout where
  | plain | single | double | literal
  deriving DecidableEq, Repr

def layout (text : List Char) : Layout :=
  if text.contains '\n' then if allowsLiteral text then .literal else .double
  else if !isSpelled text && allowsPlain text then .plain
  else if allowsSingleQuotes text then .single
  else .double

/-! ## Scalars -/

/-- Indents every line that is not empty. `atStart` says whether a line starts at the
first character. -/
def indentLines (indent : Nat) (atStart : Bool) : List Char → List Char
  | [] => []
  | c :: rest =>
    if isBreak c then c :: indentLines indent true rest
    else (if atStart then List.replicate indent ' ' else []) ++ c :: indentLines indent false rest

def singleQuotes (indent : Nat) (text : List Char) : List Char :=
  let doubled := text.flatMap fun c => if c = '\'' then ['\'', '\''] else [c]
  let closing := if endsWith isBreak text then List.replicate indent ' ' else []
  '\'' :: indentLines indent false doubled ++ closing ++ ['\'']

/-- The lower digits of a number in upper-case hexadecimal. -/
def upperHex : Nat → Nat → List Char
  | 0, _ => []
  | width + 1, n => upperHex width (n / 16) ++ [(Nat.digitChar (n % 16)).toUpper]

def escape (c : Char) : List Char :=
  '\\' :: match c with
  | '\x00' => ['0']
  | '\x07' => ['a']
  | '\x08' => ['b']
  | '\t' => ['t']
  | '\n' => ['n']
  | '\x0b' => ['v']
  | '\x0c' => ['f']
  | '\r' => ['r']
  | '\x1b' => ['e']
  | '"' => ['"']
  | '\\' => ['\\']
  | '\u0085' => ['N']
  | '\u2028' => ['L']
  | '\u2029' => ['P']
  | c =>
    if c.toNat ≤ 0xff then 'x' :: upperHex 2 c.toNat
    else if c.toNat ≤ 0xffff then 'u' :: upperHex 4 c.toNat
    else 'U' :: upperHex 8 c.toNat

def doubleQuotes (text : List Char) : List Char :=
  let escaped := text.flatMap fun c =>
    if !isPrintable c || isBreak c || c == '"' || c == '\\' then escape c else [c]
  '"' :: escaped ++ ['"']

/-- The spaces that an entry is indented by more than what it is part of. -/
def step : Nat := 2

/-- What stands behind the bar of a literal block: its indentation, where a blank
first line leaves it open, and what becomes of the line breaks at the end. -/
def literalHints (text : List Char) : List Char :=
  (if text.head?.any (fun c => isSpace c || isBreak c) then Nat.toDigits 10 step else [])
    ++ match text.reverse with
      | [] => ['-']
      | [c] => if isBreak c then ['+'] else ['-']
      | c :: d :: _ => if !isBreak c then ['-'] else if isBreak d then ['+'] else []

/-- A text of several lines. -/
def literalBlock (indent : Nat) (text : List Char) : List Char :=
  '|' :: literalHints text ++ '\n' :: indentLines indent true text

/-- A text as a scalar whose further lines are indented. -/
def scalar (indent : Nat) (text : List Char) : List Char :=
  match layout text with
  | .plain => text
  | .single => singleQuotes indent text
  | .double => doubleQuotes text
  | .literal => literalBlock indent text

/-! ## Shapes -/

/-- A line closed by a line break, unless it is closed already. -/
def closeLine (line : List Char) : List Char :=
  if endsWith isBreak line then line else line ++ ['\n']

/-- The lines of a list at an indentation. -/
def writeItems (indent : Nat) (items : List String) : List Char :=
  items.flatMap fun item =>
    closeLine (List.replicate indent ' ' ++ '-' :: ' ' :: scalar (indent + step) item.toList)

def flagText (b : Bool) : List Char := (if b then "true" else "false").toList

/-- Whether a value takes lines of its own below its key. -/
def takesLines : Shape → Bool
  | .texts items => !items.isEmpty
  | .record entries => !entries.isEmpty
  | _ => false

/-- How much further than its key a value is indented: a record is, a list is not. -/
def depth : Shape → Nat
  | .record _ => step
  | _ => 0

mutual

/-- The lines of a value that stands alone. -/
def writeShape (indent : Nat) : Shape → List Char
  | .flag b => closeLine (flagText b)
  | .integer n => closeLine (toString n).toList
  | .text s => closeLine (scalar (indent + step) s.toList)
  | .texts items => if items.isEmpty then ['[', ']', '\n'] else writeItems indent items
  | .record entries =>
    if entries.isEmpty then ['\x7b', '\x7d', '\n'] else writeEntries indent entries

/-- The lines of the entries of a record. -/
def writeEntries (indent : Nat) : List (Key × Shape) → List Char
  | [] => []
  | (key, value) :: rest =>
    List.replicate indent ' ' ++ key.text.toList ++ [':', if takesLines value then '\n' else ' ']
      ++ writeShape (indent + depth value) value ++ writeEntries indent rest

end

def write {α : Type} (s : Schema α) (a : α) : String := String.ofList (writeShape 0 (s.write a))

end CarrierAuth.Yaml
