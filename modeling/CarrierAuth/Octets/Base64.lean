import CarrierAuth.Octets

/-
  Base64 text — the standard alphabet, written with padding.

  Reading drops ASCII white space and takes any amount of padding up to the full
  one. Every group of four symbols but the last must be complete; the last may
  be short, and its unused bits must be zero. Faults carry octet offsets into
  the text without white space.
-/
namespace CarrierAuth.Base64

inductive Fault where
  | badSymbol (octet : UInt8) (offset : Nat)
  | badLength (symbols : Nat)
  | badLastSymbol (octet : UInt8) (offset : Nat)
  deriving DecidableEq, Repr

def Fault.message : Fault → String
  | .badSymbol octet offset =>
    "Invalid symbol " ++ toString octet.toNat ++ ", offset " ++ toString offset ++ "."
  | .badLength symbols => "Invalid input length: " ++ toString symbols
  | .badLastSymbol octet offset =>
    "Invalid last symbol " ++ toString octet.toNat ++ ", offset " ++ toString offset ++ "."

def pad : UInt8 := 61

/-- The symbol of a number below sixty-four. -/
def symbol (v : Nat) : UInt8 :=
  UInt8.ofNat <|
    if v < 26 then 65 + v
    else if v < 52 then 71 + v
    else if v < 62 then v - 4
    else if v = 62 then 43 else 47

/-- The value of a symbol. -/
def value? (b : UInt8) : Option Nat :=
  let n := b.toNat
  if 65 ≤ n ∧ n ≤ 90 then some (n - 65)
  else if 97 ≤ n ∧ n ≤ 122 then some (n - 71)
  else if 48 ≤ n ∧ n ≤ 57 then some (n + 4)
  else if n = 43 then some 62
  else if n = 47 then some 63
  else none

/-- The symbols of a string of octets, in groups of four for three octets each. -/
def encodeOctets : Octets → Octets
  | [] => []
  | [a] => [symbol (a.toNat / 4), symbol (a.toNat % 4 * 16), pad, pad]
  | [a, b] =>
    [symbol (a.toNat / 4), symbol (a.toNat % 4 * 16 + b.toNat / 16), symbol (b.toNat % 16 * 4), pad]
  | a :: b :: c :: rest =>
    symbol (a.toNat / 4) :: symbol (a.toNat % 4 * 16 + b.toNat / 16)
      :: symbol (b.toNat % 16 * 4 + c.toNat / 64) :: symbol (c.toNat % 64) :: encodeOctets rest

def encode (data : Octets) : String :=
  String.ofList ((encodeOctets data).map fun b => Char.ofNat b.toNat)

/-- Space, tab, line feed, form feed and carriage return. -/
def isSpace (b : UInt8) : Bool := b == 32 || b == 9 || b == 10 || b == 12 || b == 13

/-- The symbol's value at an offset. -/
def symbolAt (offset : Nat) (b : UInt8) : Except Fault Nat :=
  match value? b with
  | some v => .ok v
  | none => .error (.badSymbol b offset)

/-- The three octets of four symbol values. -/
def joinGroup (a b c d : Nat) : Octets :=
  [UInt8.ofNat (a * 4 + b / 16), UInt8.ofNat (b % 16 * 16 + c / 4), UInt8.ofNat (c % 4 * 64 + d)]

/-- The symbols of the last group, which starts at `start`, from its place `i` on.
Padding may begin at the third place and is then followed by padding only. -/
def lastSymbols (start : Nat) : Nat → Octets → Except Fault (List (UInt8 × Nat))
  | _, [] => .ok []
  | i, b :: rest =>
    if b = pad then
      if 2 ≤ i ∧ rest.all (· == pad) then .ok [] else .error (.badSymbol pad (start + i))
    else do
      let v ← symbolAt (start + i) b
      let tail ← lastSymbols start (i + 1) rest
      return (b, v) :: tail

/-- Reads the last group: at most four octets of text. -/
def decodeLast (start : Nat) (text : Octets) : Except Fault Octets := do
  match ← lastSymbols start 0 text with
  | [] => if text.isEmpty then return [] else .error (.badLength start)
  | [_] => .error (.badLength (start + 1))
  | [(_, a), (y, b)] =>
    if b % 16 = 0 then return [UInt8.ofNat (a * 4 + b / 16)]
    else .error (.badLastSymbol y (start + 1))
  | [(_, a), (_, b), (z, c)] =>
    if c % 4 = 0 then return [UInt8.ofNat (a * 4 + b / 16), UInt8.ofNat (b % 16 * 16 + c / 4)]
    else .error (.badLastSymbol z (start + 2))
  | (_, a) :: (_, b) :: (_, c) :: (_, d) :: _ => return joinGroup a b c d

/-- Reads groups of four symbols, the first of them at `start`. -/
def decodeGroups (start : Nat) : Octets → Except Fault Octets
  | a :: b :: c :: d :: e :: rest => do
    let a ← symbolAt start a
    let b ← symbolAt (start + 1) b
    let c ← symbolAt (start + 2) c
    let d ← symbolAt (start + 3) d
    let tail ← decodeGroups (start + 4) (e :: rest)
    return joinGroup a b c d ++ tail
  | last => decodeLast start last

/-- Whether an octet may stand in a Base64 text at all. -/
def isSymbol (b : UInt8) : Bool := b == pad || (value? b).isSome

/-- Reads a text without white space. A lone foreign octet after complete groups
is reported before anything else. -/
def decodeCompact (text : Octets) : Except Fault Octets :=
  match text.getLast? with
  | some b =>
    if text.length % 4 = 1 ∧ ¬ isSymbol b then .error (.badSymbol b (text.length - 1))
    else decodeGroups 0 text
  | none => .ok []

def decode (s : String) : Except Fault Octets :=
  decodeCompact ((octets s).filter (!isSpace ·))

end CarrierAuth.Base64
