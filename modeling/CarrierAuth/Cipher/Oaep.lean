import CarrierAuth.Cipher
import CarrierAuth.Cipher.Sha256

/-
  RSA with OAEP padding — PKCS #1 version 2 with SHA-256 for the label and for the
  mask, and the empty label. The seed that makes a ciphertext random is a
  parameter.
-/
namespace CarrierAuth.Oaep

/-- The number that octets stand for, the most significant first. -/
def toNumber (data : Octets) : Nat := data.foldl (fun n b => 256 * n + b.toNat) 0

/-- A number in `size` octets, the most significant first. -/
def ofNumber : Nat → Nat → Octets
  | 0, _ => []
  | size + 1, n => ofNumber size (n / 256) ++ [UInt8.ofNat n]

/-- A power of a number modulo another; `bits` is the exponent's digits in base
two, the least significant first. -/
def powerBits (modulus : Nat) : List Bool → Nat → Nat
  | [], _ => 1 % modulus
  | bit :: bits, base =>
    let rest := powerBits modulus bits (base * base % modulus)
    if bit then base * rest % modulus else rest

/-- The digits of a number in base two, the least significant first. -/
def binary (n : Nat) : List Bool :=
  (List.range (if n = 0 then 0 else n.log2 + 1)).map fun i => n.testBit i

/-- A power of a number modulo another. -/
def power (base exponent modulus : Nat) : Nat := powerBits modulus (binary exponent) base

/-- The mask of a length made from a seed: the hashes of the seed with a counter. -/
def mask (seed : Octets) (length : Nat) : Octets :=
  let count := (length + Sha256.size - 1) / Sha256.size
  ((List.range count).flatMap fun i => Sha256.hash (seed ++ ofNumber 4 i)).take length

/-- Combines two strings of octets of one length. -/
def mixed (a b : Octets) : Octets := List.zipWith (· ^^^ ·) a b

/-- The octets that the padding takes. -/
def overhead : Nat := 2 * Sha256.size + 2

/-- Pads a message that fits to `size` octets. -/
def pad (size : Nat) (seed message : Octets) : Octets :=
  let zeros := List.replicate (size - message.length - overhead) (0 : UInt8)
  let block := Sha256.hash [] ++ zeros ++ [1] ++ message
  let maskedBlock := mixed block (mask seed block.length)
  0 :: mixed seed (mask maskedBlock Sha256.size) ++ maskedBlock

/-- Takes the padding off; `none` when it is not in order. -/
def unpad? (padded : Octets) : Option Octets :=
  match padded with
  | 0 :: rest =>
    let maskedSeed := rest.take Sha256.size
    let maskedBlock := rest.drop Sha256.size
    let seed := mixed maskedSeed (mask maskedBlock Sha256.size)
    let block := mixed maskedBlock (mask seed maskedBlock.length)
    if block.take Sha256.size = Sha256.hash [] then
      match (block.drop Sha256.size).dropWhile (· == 0) with
      | 1 :: message => some message
      | _ => none
    else none
  | _ => none

/-- The name under which the cipher logs. -/
def transformation : String := "RSA/ECB/OAEPwithSHA-256andMGF1Padding"

/-- The reason for a message that leaves no room for the padding. -/
def tooLong : CipherFault := .failed "message too long"

/-- The event for a message that is not encrypted. -/
def failedEvent (fault : CipherFault) : Event :=
  { origin := .cipher, level := .error, message := fault.message
    fields := [("transformation", .text transformation)] }

/-- The cipher with a seed of `Sha256.size` octets. -/
def cipher (seed : Octets) : Cipher := fun key message =>
  if key.size < message.length + overhead then do
    Traced.log [failedEvent tooLong]
    return .error tooLong
  else
    let n := power (toNumber (pad key.size seed message)) key.exponent key.modulus
    return .ok (ofNumber key.size n)

/-- Decrypts under a private exponent. -/
def decrypt? (key : PublicKey) (privateExponent : Nat) (ciphertext : Octets) :
    Option Octets :=
  if ciphertext.length = key.size then
    unpad? (ofNumber key.size (power (toNumber ciphertext) privateExponent key.modulus))
  else none

end CarrierAuth.Oaep
