import CarrierAuth.Octets
import CarrierAuth.Text.Hidden

/-
  Quoted text — how a text or a character is shown inside a message.

  `quote` and `quoteChar` escape the quote they use, the backslash and the
  common controls, and give every other hidden character by its code point;
  `asciiEscape` gives everything outside printable ASCII by its code point.
-/
namespace CarrierAuth.Text

/-- A character given by its code point, in lower-case hexadecimal digits. -/
def codeEscape (c : Char) : List Char :=
  ['\\', 'u', '\x7b'] ++ Nat.toDigits 16 c.toNat ++ ['\x7d']

/-- A character inside quotes of the given kind. -/
def escapeChar (mark c : Char) : List Char :=
  if c = mark ∨ c = '\\' then ['\\', c]
  else if c = '\n' then ['\\', 'n']
  else if c = '\r' then ['\\', 'r']
  else if c = '\t' then ['\\', 't']
  else if c = '\x00' then ['\\', '0']
  else if isHidden c then codeEscape c
  else [c]

/-- A text in double quotes. -/
def quote (s : String) : String :=
  String.ofList (['"'] ++ s.toList.flatMap (escapeChar '"') ++ ['"'])

/-- A character in single quotes. -/
def quoteChar (c : Char) : String :=
  String.ofList (['\''] ++ escapeChar '\'' c ++ ['\''])

/-- An optional text, named and quoted. -/
def quoteOption : Option String → String
  | some s => "Some(" ++ quote s ++ ")"
  | none => "None"

/-- A character written in printable ASCII alone. -/
def asciiEscapeChar (c : Char) : List Char :=
  if c = '\t' then ['\\', 't']
  else if c = '\r' then ['\\', 'r']
  else if c = '\n' then ['\\', 'n']
  else if c = '\'' ∨ c = '"' ∨ c = '\\' then ['\\', c]
  else if 0x20 ≤ c.toNat ∧ c.toNat < 0x7f then [c]
  else codeEscape c

/-- A text written in printable ASCII alone. -/
def asciiEscape (s : String) : String := String.ofList (s.toList.flatMap asciiEscapeChar)

end CarrierAuth.Text
