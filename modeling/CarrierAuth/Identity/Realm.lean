import CarrierAuth.Octets
import CarrierAuth.Text.Quoted

/-
  Realms — the domain of an operator's Wi-Fi authentication servers, derived
  from its country code (MCC) and network code (MNC).
-/
namespace CarrierAuth

/-- An operator: country code and network code. -/
structure Operator where
  mcc : String
  mnc : String
  deriving DecidableEq, Repr

namespace Operator

/-- Reads an operator code: three octets of country code, the rest is the network
code. -/
def ofCode? (code : String) : Option Operator :=
  (cut 3 code).map fun (mcc, mnc) => ⟨mcc, mnc⟩

/-- The operator in the first six octets of an IMSI, taking its network code to be
three digits long. -/
def ofImsi? (imsi : String) : Option Operator := do
  let (mcc, rest) ← cut 3 imsi
  let (mnc, _) ← cut 3 rest
  return ⟨mcc, mnc⟩

/-- The network code with two digits filled up to three. -/
def paddedMnc (op : Operator) : String :=
  if octetLength op.mnc = 2 then "0" ++ op.mnc else op.mnc

def realm (op : Operator) : String :=
  "wlan.mnc" ++ op.paddedMnc ++ ".mcc" ++ op.mcc ++ ".3gppnetwork.org"

end Operator

end CarrierAuth
