import CarrierAuth.Octets.Codec
import CarrierAuth.Octets.Field

/-
  Replies of the card — the faults of an authentication, and the reading of a
  reply's text into octets.
-/
namespace CarrierAuth

inductive ReplyField where
  | sres | kc | res | ck | ik | auts
  deriving DecidableEq, Repr

def ReplyField.name : ReplyField → String
  | .sres => "SRES"
  | .kc => "Kc"
  | .res => "RES"
  | .ck => "CK"
  | .ik => "IK"
  | .auts => "AUTS"

/-- Why an authentication fails. -/
inductive AuthFault where
  | missingReply
  | replyTooShort (length : Nat)
  | malformedReply (fault : CodecFault)
  | negativeLength (field : ReplyField) (value : Int)
  | fieldTooShort (field : ReplyField) (expected actual : Nat)
  | unexpectedLength (expected actual : Nat)
  | unknownTag (tag : UInt8)
  | malformedChallenge (fault : CodecFault)
  | challengeCount (expected actual : Nat)
  deriving DecidableEq, Repr

namespace AuthFault

/-- An octet in two upper-case hexadecimal digits. -/
def tagText (tag : UInt8) : String := (Hex.encode [tag]).toUpper

def message : AuthFault → String
  | .missingReply => "No response from SIM"
  | .replyTooShort length => "Response too short: " ++ toString length ++ " bytes"
  | .malformedReply fault => "Malformed response: " ++ fault.message
  | .negativeLength field value =>
    "Negative " ++ field.name ++ " length: " ++ toString value
  | .fieldTooShort field expected actual =>
    "Buffer too short for " ++ field.name ++ ": expected " ++ toString expected
      ++ " bytes, got " ++ toString actual
  | .unexpectedLength expected actual =>
    "Unexpected response length: expected " ++ toString expected ++ " bytes, got "
      ++ toString actual
  | .unknownTag tag => "Unknown response tag: 0x" ++ tagText tag
  | .malformedChallenge fault => "Malformed challenge: " ++ fault.message
  | .challengeCount expected actual =>
    "Wrong challenge count: expected " ++ toString expected ++ ", got " ++ toString actual

/-- Whether the card's reply is to blame, and not the challenge. -/
def blamesReply : AuthFault → Bool
  | .malformedChallenge _ | .challengeCount _ _ => false
  | _ => true

end AuthFault

/-- The longest reply text that is refused unread, in octets. -/
def shortestReply : Nat := 4

def replyOctets : Option String → Except AuthFault Octets
  | none => .error .missingReply
  | some text =>
    if octetLength text ≤ shortestReply then .error (.replyTooShort (octetLength text))
    else (readBase64 text).mapError .malformedReply

def readField (field : ReplyField) (data : Octets) : Except AuthFault (Octets × Octets) :=
  (Field.read data).mapError fun
    | .missing => .fieldTooShort field 1 0
    | .negative value => .negativeLength field value
    | .short expected actual => .fieldTooShort field expected actual

end CarrierAuth
