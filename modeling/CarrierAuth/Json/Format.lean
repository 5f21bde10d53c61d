import CarrierAuth.Json.Value
import CarrierAuth.Schema

/-
  JSON as a format — how JSON values read as values.

  An integer has one spelling: no fraction, no exponent, no minus in front of zero.
  A record is an object, or an array of its fields in order; a choice is named by a
  string, or by the only key of an object that holds nothing for it.
-/
namespace CarrierAuth.Json

/-- The character of a one-letter escape. -/
def escaped? (c : Char) : Option Char :=
  match c with
  | '"' => some '"'
  | '\\' => some '\\'
  | '/' => some '/'
  | 'b' => some '\x08'
  | 'f' => some '\x0c'
  | 'n' => some '\n'
  | 'r' => some '\r'
  | 't' => some '\t'
  | _ => none

/-- Whether a number is the first half of a surrogate pair. -/
def isHigh (n : Nat) : Bool := 0xd800 ≤ n && n < 0xdc00

/-- Whether a number is the second half of a surrogate pair. -/
def isLow (n : Nat) : Bool := 0xdc00 ≤ n && n < 0xe000

/-- The characters of a string by what stands between its quotes. `high` is the first
half of a pair whose second half must come next. -/
def unescape? (high : Option Nat) : List Char → Option (List Char)
  | '\\' :: 'u' :: a :: b :: c :: d :: rest => do
    let n ← Text.digitsValue? 16 [a, b, c, d]
    match high with
    | some h =>
      if isLow n then
        let tail ← unescape? none rest
        return Char.ofNat (0x10000 + (h - 0xd800) * 0x400 + (n - 0xdc00)) :: tail
      else none
    | none =>
      if isHigh n then unescape? (some n) rest
      else if isLow n then none
      else
        let tail ← unescape? none rest
        return Char.ofNat n :: tail
  | '\\' :: c :: rest =>
    if high.isSome then none
    else do
      let ch ← escaped? c
      let tail ← unescape? none rest
      return ch :: tail
  | c :: rest =>
    if high.isSome then none
    else do
      let tail ← unescape? none rest
      return c :: tail
  | [] => if high.isSome then none else some []

/-- The text of a string by what stands between its quotes. -/
def text? (raw : List Char) : Option String := (unescape? none raw).map String.ofList

def integer? (text : List Char) : Option Int :=
  let (negative, digits) := match text with
    | '-' :: rest => (true, rest)
    | text => (false, text)
  if digits.head? = some '0' ∧ (negative ∨ digits.length ≠ 1) then none
  else (Text.digitsValue? 10 digits).map fun n => if negative then -(n : Int) else n

def format : Format Value where
  flag
    | .flag b => some b
    | _ => none
  integer
    | .number text => integer? text
    | _ => none
  text
    | .string raw => text? raw
    | _ => none
  choice
    | .string raw => text? raw
    | .object [(key, .null)] => text? key
    | _ => none
  list
    | .array items => some items
    | _ => none
  fields
    | .object entries => do
      return .named (← entries.mapM fun e => do return (← text? e.1, e.2))
    | .array items => some (.placed items)
    | _ => none
  table
    | .object entries => entries.mapM fun e => do return (← integer? e.1, e.2)
    | _ => none

def read {α : Type} (s : Schema α) (text : String) : Option α :=
  (ofText? text.toList).bind (s.read format)

end CarrierAuth.Json
