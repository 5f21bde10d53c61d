import CarrierAuth.Cipher
import CarrierAuth.Identity.Realm
import CarrierAuth.Octets.Base64

/-
  Permanent identities — the identity made from the IMSI, in clear text and
  encrypted for the carrier.
-/
namespace CarrierAuth

/-- Why an identity cannot be built. -/
inductive IdentityFault where
  | missingImsi
  | imsiTooShort (length : Nat)
  | malformedOperator (code : String)
  | unsupportedMethod (method : EapMethod)
  | encryptionFailed (reason : CipherFault)
  deriving DecidableEq, Repr

def IdentityFault.message : IdentityFault → String
  | .missingImsi => "No IMSI available"
  | .imsiTooShort length =>
    "IMSI too short to derive MCC/MNC: " ++ toString length ++ " digits"
  | .malformedOperator code => "Malformed MCC/MNC: " ++ Text.quote code
  | .unsupportedMethod method => "Unsupported EAP method for SIM identity: " ++ method.display
  | .encryptionFailed reason => "Identity encryption failed: " ++ reason.message

namespace Operator

def ofCode (code : String) : Except IdentityFault Operator :=
  match ofCode? code with
  | some op => .ok op
  | none => .error (.malformedOperator code)

end Operator

namespace Identity

/-- The event for a realm that is taken from the IMSI. -/
def derivedRealmEvent (imsi : String) : Event :=
  { origin := .identity, level := .trace, message := "No operator, deriving realm from IMSI"
    fields := [("len", .number (octetLength imsi))] }

/-- The operator whose realm an identity carries: the one of the code or, without
a code, the one in the IMSI. -/
def homeOperator (imsi code : String) : Traced (Except IdentityFault Operator) :=
  if code = "" then do
    Traced.log [derivedRealmEvent imsi]
    match Operator.ofImsi? imsi with
    | some op => return .ok op
    | none => return .error (.imsiTooShort (octetLength imsi))
  else return Operator.ofCode code

/-- The permanent identity: the method's digit, the IMSI and the realm. -/
def permanent (method : EapMethod) (imsi code : String) :
    Traced (Except IdentityFault String) :=
  if imsi = "" then return .error .missingImsi
  else match method.leadingDigit? with
    | none => return .error (.unsupportedMethod method)
    | some digit => do
      let home ← homeOperator imsi code
      return home.map fun op => String.singleton digit ++ imsi ++ "@" ++ op.realm

/-- The mark in front of an encrypted identity. -/
def encryptedMark : String := "\x00"

def encryptedText (ciphertext : Octets) (keyId : Option String) : String :=
  encryptedMark ++ Base64.encode ciphertext ++
    match keyId with
    | some id => "," ++ id
    | none => ""

/-- The event for an identity that could not be encrypted. -/
def encryptionFailedEvent (key : CarrierKey) (fault : CipherFault) : Event :=
  { origin := .identity, level := .warn
    message := (IdentityFault.encryptionFailed fault).message
    fields := [("key_id", .shown (Text.quoteOption key.id))] }

def encrypted (cipher : Cipher) (key : CarrierKey) (identity : String) :
    Traced (Except IdentityFault String) := do
  Traced.act (.enciphered key.key)
  match ← cipher key.key (octets identity) with
  | .ok ciphertext => return .ok (encryptedText ciphertext key.id)
  | .error fault =>
    Traced.log [encryptionFailedEvent key fault]
    return .error (.encryptionFailed fault)

end Identity

/-- The permanent identity in clear text and, where the carrier has a key, in
encrypted form. -/
structure IdentityPair where
  identity : String
  encrypted : Option String := none
  deriving DecidableEq, Repr

/-- The identity to send first. -/
def IdentityPair.preferred (i : IdentityPair) : String := i.encrypted.getD i.identity

end CarrierAuth
