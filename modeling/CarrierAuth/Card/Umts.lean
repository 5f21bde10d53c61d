import CarrierAuth.Card.Session

/-
  UMTS authentication — the challenge is a random number (RAND) and a network
  token (AUTN); the card answers with a response and two keys (RES, CK, IK), or
  with a token for resynchronisation (AUTS) when it has seen the network token
  before.
-/
namespace CarrierAuth

/-- The first octet of a reply, which tells the kind of reply. -/
inductive UmtsTag where
  | success | syncFailure
  deriving DecidableEq, Repr

namespace UmtsTag

def code : UmtsTag → UInt8
  | .success => 0xdb
  | .syncFailure => 0xdc

def ofOctet (b : UInt8) : Except AuthFault UmtsTag :=
  if b = success.code then .ok .success
  else if b = syncFailure.code then .ok .syncFailure
  else .error (.unknownTag b)

end UmtsTag

/-- The card's answer to a UMTS challenge. -/
inductive UmtsResult where
  | success (res ck ik : Octets)
  | syncFailure (auts : Octets)
  deriving DecidableEq, Repr

def UmtsResult.render : UmtsResult → String
  | .success res ck ik => ":" ++ Hex.encode ik ++ ":" ++ Hex.encode ck ++ ":" ++ Hex.encode res
  | .syncFailure auts => ":" ++ Hex.encode auts

namespace Umts

/-- Reads the fields that follow a tag, and the octets left over. -/
def readFields (tag : UmtsTag) (data : Octets) : Except AuthFault (UmtsResult × Octets) :=
  match tag with
  | .success => do
    let (res, data) ← readField .res data
    let (ck, data) ← readField .ck data
    let (ik, rest) ← readField .ik data
    return (.success res ck ik, rest)
  | .syncFailure => do
    let (auts, rest) ← readField .auts data
    return (.syncFailure auts, rest)

/-- Reads a reply, and the octets left over. -/
def readTagged : Octets → Except AuthFault (UmtsResult × Octets)
  | [] => .error (.replyTooShort 0)
  | b :: data => do
    let tag ← UmtsTag.ofOctet b
    readFields tag data

/-- The event for octets that follow the last field. -/
def trailingEvent (count : Nat) : Event :=
  { origin := .umts, level := .debug, message := "Ignoring trailing bytes in UMTS response"
    fields := [("trailing", .number count)] }

/-- Decodes a reply; what follows its last field is logged and dropped. -/
def decode (data : Octets) : Traced (Except AuthFault UmtsResult) :=
  match readTagged data with
  | .error fault => pure (.error fault)
  | .ok (result, rest) => do
    unless rest.isEmpty do Traced.log [trailingEvent rest.length]
    return .ok result

/-- The octets to send for a challenge of RAND and AUTN. -/
def encodeChallenge : List String → Except AuthFault Octets
  | [rand, autn] => do
    let rand ← (readHexField rand).mapError .malformedChallenge
    let autn ← (readHexField autn).mapError .malformedChallenge
    return rand ++ autn
  | texts => .error (.challengeCount 2 texts.length)

/-- The event for a reply that cannot be used; `what` says how. -/
def failedEvent (what : String) (fault : AuthFault) : Event :=
  { origin := .umts, level := .warn, message := what ++ ": " ++ fault.message, fields := [] }

def command (data : Octets) : Command := ⟨.usim, .eapAka, Base64.encode data⟩

def readReply (reply : Option String) : Traced (Except AuthFault UmtsResult) :=
  match replyOctets reply with
  | .error fault => do
    Traced.log [failedEvent "UMTS authentication failed" fault]
    return .error fault
  | .ok data => do
    Traced.log (exchangeEvents .fromCard "UMTS response" data)
    match ← decode data with
    | .error fault =>
      Traced.log [failedEvent "Invalid UMTS response" fault]
      return .error fault
    | .ok result => return .ok result

def authenticate {σ : Type} (card : Card σ) (challenges : List String) :
    Session σ (Except AuthFault UmtsResult) :=
  match encodeChallenge challenges with
  | .error fault => return .error fault
  | .ok data => do
    Session.log (exchangeEvents .toCard "UMTS RAND/AUTN" data)
    let reply ← Session.ask card (command data)
    Session.offline (readReply reply)

end Umts

end CarrierAuth
