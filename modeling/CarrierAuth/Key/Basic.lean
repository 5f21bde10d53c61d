/-
  Carrier keys — the RSA public key a carrier provisions for encrypting
  identities, and the identifier it may give the key.
-/
namespace CarrierAuth

structure PublicKey where
  modulus : Nat
  exponent : Nat
  deriving DecidableEq, Repr

namespace PublicKey

/-- The number of octets that hold a number. -/
def octetCount (n : Nat) : Nat := if n = 0 then 0 else n.log2 / 8 + 1

/-- The length of a ciphertext under the key, in octets. -/
def size (k : PublicKey) : Nat := octetCount k.modulus

end PublicKey

/-- A public key with the identifier the carrier gave it, if any. -/
structure CarrierKey where
  key : PublicKey
  id : Option String := none
  deriving DecidableEq, Repr

end CarrierAuth
