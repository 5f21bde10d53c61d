import CarrierAuth.Octets.Base64
import CarrierAuth.Octets.Hex

/-
  Text codecs — hexadecimal and Base64 text as they reach the library from
  outside, with one type of fault for both.
-/
namespace CarrierAuth

/-- Why a text or a range of octets cannot be converted. -/
inductive CodecFault where
  | hex (text : String) (fault : Hex.Fault)
  | base64 (fault : Base64.Fault)
  | range (offset count : UInt64) (length : Nat)
  deriving DecidableEq, Repr

namespace CodecFault

def message : CodecFault → String
  | .hex text fault => "Malformed hex: " ++ Text.quote text ++ ": " ++ fault.message
  | .base64 fault => "Malformed base64: " ++ fault.message
  | .range offset count length =>
    "Range " ++ toString offset ++ "+" ++ toString count ++ " exceeds buffer length "
      ++ toString length

theorem message_hex (text : String) (fault : Hex.Fault) :
    (hex text fault).message =
      "Malformed hex: " ++ (Text.quote text ++ (": " ++ fault.message)) := by
  rw [← String.append_assoc, ← String.append_assoc]
  rfl

end CodecFault

def readHex (s : String) : Except CodecFault Octets := (Hex.decode s).mapError (.hex s)

/-- Reads hexadecimal text as a field: its octets behind their count. -/
def readHexField (s : String) : Except CodecFault Octets :=
  (Hex.decodeCounted s).mapError (.hex s)

def readBase64 (s : String) : Except CodecFault Octets := (Base64.decode s).mapError .base64

/-- Hexadecimal text of a part of the data. -/
def hexRange (data : Octets) (offset count : UInt64) : Except CodecFault String :=
  match Hex.encodeRange data offset count with
  | some text => .ok text
  | none => .error (.range offset count data.length)

end CarrierAuth
