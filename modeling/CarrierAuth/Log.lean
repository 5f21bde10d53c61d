import CarrierAuth.Octets.Hex

/-
  Log events — their levels, what they carry, and the events for a message to or
  from the card. The octets of such a message appear at `trace` level only.
-/
namespace CarrierAuth

/-- How severe an event is, the least severe first. -/
inductive Level where
  | trace | debug | info | warn | error
  deriving DecidableEq, Repr

namespace Level

/-- The level used when none is chosen. -/
def standard : Level := .info

/-- The place of a level in the order of severity. -/
def severity : Level → Nat
  | .trace => 0 | .debug => 1 | .info => 2 | .warn => 3 | .error => 4

def name : Level → String
  | .trace => "trace" | .debug => "debug" | .info => "info" | .warn => "warn" | .error => "error"

/-- The name of a level as it stands in front of an event. -/
def label : Level → String
  | .trace => "TRACE" | .debug => "DEBUG" | .info => "INFO" | .warn => "WARN" | .error => "ERROR"

def all : List Level := [.trace, .debug, .info, .warn, .error]

/-- The level of a name in lower case. -/
def ofName? (s : String) : Option Level := all.find? (·.name == s)

/-- Reads the name of a level in any case; `warning` is another name of `warn`.
No letter outside ASCII but the Kelvin sign has an ASCII lower case, and no name
holds a `k`, so folding ASCII letters is enough. -/
def read? (s : String) : Option Level :=
  let folded := String.ofList (s.toList.map Char.toLower)
  if folded = "warning" then some .warn else ofName? folded

/-- The wording for a text that names no level. -/
def unknownMessage (s : String) : String := "unknown log level: " ++ s

end Level

/-- The part of the library that logs an event. -/
inductive Origin where
  | exchange | identity | gsm | umts | cipher | client | program
  deriving DecidableEq, Repr

/-- The name under which a part logs. -/
def Origin.path : Origin → String
  | .exchange => "eapsim_common::logging"
  | .identity => "eapsim_identity::identity"
  | .gsm => "eapsim_usim::gsm"
  | .umts => "eapsim_usim::umts"
  | .cipher => "eapsim_crypto::imsi"
  | .client => "eapsim_client::client"
  | .program => "eapsim"

/-- What a field of an event holds: a number, a text, or the shown form of some
other value. -/
inductive FieldValue where
  | number (n : Int)
  | text (s : String)
  | shown (s : String)
  deriving DecidableEq, Repr

structure Event where
  origin : Origin
  level : Level
  message : String
  fields : List (String × FieldValue)
  deriving DecidableEq, Repr

/-- The events at a level or more severe. -/
def eventsFrom (level : Level) (log : List Event) : List Event :=
  log.filter fun e => level.severity ≤ e.level.severity

theorem eventsFrom_append (level : Level) (a b : List Event) :
    eventsFrom level (a ++ b) = eventsFrom level a ++ eventsFrom level b :=
  List.filter_append a b

/-- Which way a message to or from the card goes. -/
inductive Direction where
  | toCard | fromCard
  deriving DecidableEq, Repr

def Direction.name : Direction → String
  | .toCard => "TO-SIM"
  | .fromCard => "FROM-SIM"

/-- The events for one message to or from the card. Its length is logged at
`debug`, its octets at `trace` only. -/
def exchangeEvents (direction : Direction) (kind : String) (data : Octets) : List Event :=
  [ { origin := .exchange, level := .debug
      message := direction.name ++ " " ++ kind ++ " payload"
      fields := [("direction", .shown direction.name), ("kind", .text kind),
        ("len", .number data.length)] },
    { origin := .exchange, level := .trace
      message := kind ++ " raw"
      fields := [("direction", .shown direction.name), ("hex", .shown (Hex.encode data))] } ]

end CarrierAuth
