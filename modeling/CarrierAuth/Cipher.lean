import CarrierAuth.Trace

/-
  Ciphers — public-key encryption as the identities use it. A cipher is any
  function of the key and the plaintext; it may log.
-/
namespace CarrierAuth

/-- Why a plaintext is not encrypted. -/
inductive CipherFault where
  | invalidKey (reason : String)
  | failed (reason : String)
  deriving DecidableEq, Repr

def CipherFault.message : CipherFault → String
  | .invalidKey reason => "Invalid public key: " ++ reason
  | .failed reason => "Encryption failed: " ++ reason

/-- Public-key encryption. -/
abbrev Cipher := PublicKey → Octets → Traced (Except CipherFault Octets)

namespace Cipher

/-- The cipher that leaves the plaintext as it is. -/
def echo : Cipher := fun _ plaintext => pure (.ok plaintext)

/-- The cipher with one ciphertext for every plaintext. -/
def fixed (ciphertext : Octets) : Cipher := fun _ _ => pure (.ok ciphertext)

def failing (fault : CipherFault) : Cipher := fun _ _ => pure (.error fault)

end Cipher

end CarrierAuth
