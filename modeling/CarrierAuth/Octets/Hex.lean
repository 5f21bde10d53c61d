import CarrierAuth.Text.Quoted

/-
  Hexadecimal text — two digits per octet, written in lower case and read in
  either case.

  Reading tests the number of octets of the text first and then the digits from
  left to right, so a text of odd length is reported as such whatever it holds.
-/
namespace CarrierAuth.Hex

inductive Fault where
  | oddLength
  | badDigit (octet : UInt8) (position : Nat)
  deriving DecidableEq, Repr

/-- The wording of a fault; the octet is shown as the character of that code. -/
def Fault.message : Fault → String
  | .oddLength => "Odd number of digits"
  | .badDigit octet position =>
    "Invalid character " ++ Text.quoteChar (Char.ofNat octet.toNat) ++ " at position "
      ++ toString position

/-- The digit of a number below sixteen. -/
def digit (n : Nat) : Char := Char.ofNat (if n < 10 then 48 + n else 87 + n)

/-- The value of a digit, given as an octet. -/
def value? (b : UInt8) : Option Nat :=
  let n := b.toNat
  if 48 ≤ n ∧ n ≤ 57 then some (n - 48)
  else if 65 ≤ n ∧ n ≤ 70 then some (n - 55)
  else if 97 ≤ n ∧ n ≤ 102 then some (n - 87)
  else none

def octetDigits (b : UInt8) : List Char := [digit (b.toNat / 16), digit (b.toNat % 16)]

def digits (data : Octets) : List Char := data.flatMap octetDigits

/-- The lower-case hexadecimal text of a string of octets. -/
def encode (data : Octets) : String := String.ofList (digits data)

def digitAt (position : Nat) (b : UInt8) : Except Fault Nat :=
  match value? b with
  | some v => .ok v
  | none => .error (.badDigit b position)

/-- Reads pairs of digits, the first of them at `position`. -/
def decodePairs (position : Nat) : Octets → Except Fault Octets
  | [] => .ok []
  | [_] => .error .oddLength
  | a :: b :: rest => do
    let high ← digitAt position a
    let low ← digitAt (position + 1) b
    let tail ← decodePairs (position + 2) rest
    return UInt8.ofNat (16 * high + low) :: tail

def decodeOctets (text : Octets) : Except Fault Octets :=
  if text.length % 2 = 1 then .error .oddLength else decodePairs 0 text

def decode (s : String) : Except Fault Octets := decodeOctets (octets s)

/-- Reads a hexadecimal text and puts the count of octets it stands for in front,
as one octet modulo 256. -/
def decodeCounted (s : String) : Except Fault Octets :=
  (decode s).map fun data => UInt8.ofNat (octetLength s / 2) :: data

/-- The hexadecimal text of `count` octets from `offset` on; `none` when the range
ends beyond the data, or its end does not fit 64 bits. -/
def encodeRange (data : Octets) (offset count : UInt64) : Option String := do
  let stop ← addCounts? offset count
  return encode (← slice? data offset stop)

end CarrierAuth.Hex
