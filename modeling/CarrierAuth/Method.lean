/-
  Authentication methods — the outer EAP method of a network, the inner method
  of a tunnelled one, and the card application and algorithm that a challenge is
  for.
-/
namespace CarrierAuth

inductive EapMethod where
  | unset | peap | tls | ttls | pwd | sim | aka | akaPrime | unauthTls
  deriving DecidableEq, Repr

namespace EapMethod

def all : List EapMethod := [.unset, .peap, .tls, .ttls, .pwd, .sim, .aka, .akaPrime, .unauthTls]

def display : EapMethod → String
  | .unset => "NONE"
  | .peap => "PEAP"
  | .tls => "TLS"
  | .ttls => "TTLS"
  | .pwd => "PWD"
  | .sim => "SIM"
  | .aka => "AKA"
  | .akaPrime => "AKA'"
  | .unauthTls => "UNAUTH_TLS"

/-- The name of a method in settings and documents. -/
def name : EapMethod → String
  | .unset => "None"
  | .peap => "Peap"
  | .tls => "Tls"
  | .ttls => "Ttls"
  | .pwd => "Pwd"
  | .sim => "Sim"
  | .aka => "Aka"
  | .akaPrime => "AkaPrime"
  | .unauthTls => "UnauthTls"

def ofName? (s : String) : Option EapMethod := all.find? (·.name == s)

/-- The digit that leads an identity used with a method; only the methods of the
card have one. -/
def leadingDigit? : EapMethod → Option Char
  | .aka => some '0'
  | .sim => some '1'
  | .akaPrime => some '6'
  | _ => none

/-- Whether a method runs on the card. -/
def isCardBased : EapMethod → Bool
  | .sim | .aka | .akaPrime => true
  | _ => false

end EapMethod

/-- The inner method of a tunnelled EAP method. -/
inductive Phase2Method where
  | unset | pap | mschap | mschapv2 | gtc | sim | aka | akaPrime
  deriving DecidableEq, Repr

namespace Phase2Method

def all : List Phase2Method := [.unset, .pap, .mschap, .mschapv2, .gtc, .sim, .aka, .akaPrime]

def name : Phase2Method → String
  | .unset => "None"
  | .pap => "Pap"
  | .mschap => "Mschap"
  | .mschapv2 => "Mschapv2"
  | .gtc => "Gtc"
  | .sim => "Sim"
  | .aka => "Aka"
  | .akaPrime => "AkaPrime"

def ofName? (s : String) : Option Phase2Method := all.find? (·.name == s)

/-- The card method that an inner method is, if it is one. -/
def cardMethod? : Phase2Method → Option EapMethod
  | .sim => some .sim
  | .aka => some .aka
  | .akaPrime => some .akaPrime
  | _ => none

def isCardBased (m : Phase2Method) : Bool := m.cardMethod?.isSome

end Phase2Method

/-- What a network asks for: an EAP method and, inside a tunnel, a second one. -/
structure NetworkMethod where
  outer : EapMethod
  inner : Phase2Method := .unset
  deriving DecidableEq, Repr

namespace NetworkMethod

/-- Whether the network authenticates through the card, directly or in a tunnel.
Only PEAP carries a card method inside. -/
def isCardBased (n : NetworkMethod) : Bool :=
  n.outer.isCardBased || (n.outer == .peap && n.inner.isCardBased)

/-- The card method the network runs; `unset` when it runs none. -/
def cardMethod (n : NetworkMethod) : EapMethod :=
  if n.outer = .peap then n.inner.cardMethod?.getD .unset
  else if n.outer.isCardBased then n.outer
  else .unset

end NetworkMethod

/-- The application of the card that a command is for. -/
inductive CardApp where
  | sim | usim
  deriving DecidableEq, Repr

namespace CardApp

def all : List CardApp := [.sim, .usim]

def name : CardApp → String
  | .sim => "Sim"
  | .usim => "Usim"

def display : CardApp → String
  | .sim => "SIM"
  | .usim => "USIM"

def ofName? (s : String) : Option CardApp := all.find? (·.name == s)

end CardApp

/-- The algorithm that a command runs. -/
inductive CardAlgorithm where
  | eapSim | eapAka
  deriving DecidableEq, Repr

namespace CardAlgorithm

def all : List CardAlgorithm := [.eapSim, .eapAka]

def name : CardAlgorithm → String
  | .eapSim => "EapSim"
  | .eapAka => "EapAka"

def display : CardAlgorithm → String
  | .eapSim => "EAP-SIM"
  | .eapAka => "EAP-AKA"

def ofName? (s : String) : Option CardAlgorithm := all.find? (·.name == s)

end CardAlgorithm

end CarrierAuth
