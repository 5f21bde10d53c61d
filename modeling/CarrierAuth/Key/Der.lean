import CarrierAuth.Cipher.Oaep

/-
  Public keys in DER — the `SubjectPublicKeyInfo` of an RSA key.

  Reading is strict: lengths and numbers in their shortest form, nothing behind
  the last element of a sequence, the algorithm's parameters NULL, and whole
  octets in the bit string.
-/
namespace CarrierAuth.Der

/-- The tags of the elements of a key. -/
def integerTag : UInt8 := 0x02
def bitStringTag : UInt8 := 0x03
def nullTag : UInt8 := 0x05
def objectTag : UInt8 := 0x06
def sequenceTag : UInt8 := 0x30

def maxLength : Nat := 0xfffffff

/-- Reads a length in its shortest form. -/
def readLength : Octets → Option (Nat × Octets)
  | [] => none
  | b :: rest =>
    if b.toNat < 0x80 then some (b.toNat, rest)
    else
      let count := b.toNat - 0x80
      let digits := rest.take count
      let n := Oaep.toNumber digits
      if 1 ≤ count ∧ count ≤ 4 ∧ digits.length = count ∧ digits.head? ≠ some 0
          ∧ 0x80 ≤ n ∧ n ≤ maxLength then
        some (n, rest.drop count)
      else none

/-- Reads an element with a tag: its contents and what follows it. -/
def readElement (tag : UInt8) : Octets → Option (Octets × Octets)
  | [] => none
  | b :: rest =>
    if b = tag then do
      let (length, rest) ← readLength rest
      if length ≤ rest.length then some (rest.take length, rest.drop length) else none
    else none

def readOnly (tag : UInt8) (data : Octets) : Option Octets := do
  let (contents, rest) ← readElement tag data
  if rest.isEmpty then some contents else none

/-- The number in the contents of a positive integer in its shortest form. -/
def readNatural : Octets → Option Nat
  | [] => none
  | [0] => some 0
  | 0 :: b :: rest => if 0x80 ≤ b.toNat then some (Oaep.toNumber (b :: rest)) else none
  | b :: rest => if b.toNat < 0x80 then some (Oaep.toNumber (b :: rest)) else none

/-- The contents of the object identifier of RSA keys, 1.2.840.113549.1.1.1. -/
def rsaIdentifier : Octets := [0x2a, 0x86, 0x48, 0x86, 0xf7, 0x0d, 0x01, 0x01, 0x01]

/-- Whether the contents of an algorithm's sequence name RSA with NULL parameters. -/
def isRsa (contents : Octets) : Bool :=
  match readElement objectTag contents with
  | some (identifier, rest) => identifier == rsaIdentifier && readOnly nullTag rest == some []
  | none => false

/-- The key in the contents of a bit string. -/
def readNumbers (data : Octets) : Option PublicKey := do
  let contents ← readOnly sequenceTag data
  let (modulus, rest) ← readElement integerTag contents
  let exponent ← readOnly integerTag rest
  return ⟨← readNatural modulus, ← readNatural exponent⟩

def maxModulusBits : Nat := 4096

def maxExponent : Nat := Nat.pow 2 33 - 1

/-- Whether a key can be used. -/
def isSound (key : PublicKey) : Bool :=
  key.modulus < Nat.pow 2 maxModulusBits && key.modulus % 2 == 1 && key.exponent % 2 == 1
    && key.exponent < key.modulus && 2 ≤ key.exponent && key.exponent ≤ maxExponent

def readKey (data : Octets) : Option PublicKey := do
  let contents ← readOnly sequenceTag data
  let (algorithm, rest) ← readElement sequenceTag contents
  guard (isRsa algorithm)
  match ← readOnly bitStringTag rest with
  | 0 :: numbers =>
    let key ← readNumbers numbers
    guard (isSound key)
    return key
  | _ => none

end CarrierAuth.Der
