import CarrierAuth.Card.Gsm
import CarrierAuth.CommandLine.Arguments

/-
  Invocations — what the program is asked to do.
-/
namespace CarrierAuth.CommandLine

inductive Task where
  /-- Builds the permanent identity and, with a carrier's key, its encrypted form. -/
  | identity (method : EapMethod) (imsi code : String) (keyFile keyId : Option String)
  | anonymous (method : EapMethod) (code : String) (withDigit : Bool)
  | pseudonym (pseudonym code : String)
  | decodeGsm (layout : GsmLayout) (reply : String)
  | decodeUmts (reply : String)
  deriving DecidableEq, Repr

/-- A task and the options in front of it. -/
structure Invocation where
  settingsFile : Option String
  level : Option Level
  task : Task
  deriving DecidableEq, Repr

def Task.file? : Task → Option String
  | .identity _ _ _ keyFile _ => keyFile
  | _ => none

/-- The files that an invocation reads. -/
def Invocation.files (inv : Invocation) : List String :=
  inv.settingsFile.toList ++ inv.task.file?.toList

/-! ## Options -/

/-- The method of a name on the command line. -/
def method? : String → Option EapMethod
  | "sim" => some .sim
  | "aka" => some .aka
  | "aka-prime" => some .akaPrime
  | _ => none

def textOption (long : String) (short : Option Char) : OptionSpec :=
  ⟨long, short, .value fun _ => true⟩

def fileOption (long : String) (short : Char) : OptionSpec :=
  ⟨long, some short, .value (· != "")⟩

def helpOption : OptionSpec := ⟨"help", some 'h', .help⟩

def methodOption : OptionSpec := ⟨"method", some 'm', .value fun s => (method? s).isSome⟩

def codeOption : OptionSpec := textOption "mcc-mnc" (some 'o')

/-- The options in front of the task. -/
def generalOptions : List OptionSpec :=
  [fileOption "config" 'c', ⟨"log-level", some 'l', .value fun s => (Level.read? s).isSome⟩,
    ⟨"version", some 'V', .version⟩, helpOption]

/-! ## Tasks -/

def required {α : Type} : Option α → Except Stop α
  | some a => .ok a
  | none => .error .usage

def identityTask (args : List String) : Except Stop Task := do
  let options := [methodOption, textOption "imsi" (some 'i'), codeOption, fileOption "key" 'k',
    textOption "key-id" none, helpOption]
  let p ← parse options 0 {} none args
  if p.has "key-id" && !p.has "key" then throw .usage
  return .identity (← required ((p.value? "method").bind method?)) (← required (p.value? "imsi"))
    ((p.value? "mcc-mnc").getD "") (p.value? "key") (p.value? "key-id")

def anonymousTask (args : List String) : Except Stop Task := do
  let options := [methodOption, codeOption, ⟨"prefix", some 'p', .switch⟩, helpOption]
  let p ← parse options 0 {} none args
  return .anonymous (← required ((p.value? "method").bind method?))
    (← required (p.value? "mcc-mnc")) (p.has "prefix")

def pseudonymTask (args : List String) : Except Stop Task := do
  let p ← parse [codeOption, helpOption] 1 {} none args
  return .pseudonym (← required p.words.head?) (← required (p.value? "mcc-mnc"))

def decodeTask (task : String → Task) (args : List String) : Except Stop Task := do
  let p ← parse [helpOption] 1 {} none args
  return task (← required p.words.head?)

/-- The tasks by name, and how their arguments are read. -/
def tasks : List (String × (List String → Except Stop Task)) :=
  [("identity", identityTask), ("anonymous", anonymousTask), ("pseudonym", pseudonymTask),
    ("decode-gsm", decodeTask (.decodeGsm .counted)),
    ("decode-gsm-fixed", decodeTask (.decodeGsm .fixed)), ("decode-umts", decodeTask .decodeUmts)]

/-- The name of the task that asks for help. -/
def helpTask : String := "help"

/-- What a request for help ends with: help on the program, on a task, or on help
itself. -/
def helpStop : List String → Stop
  | [] => .help
  | [name] => if name = helpTask ∨ (tasks.lookup name).isSome then .help else .usage
  | _ => .usage

/-- Reads the arguments of the program. -/
def Invocation.ofArguments (args : List String) : Except Stop Invocation := do
  let (p, name, rest) ← parseHead generalOptions {} none args
  if name = helpTask then throw (helpStop rest)
  let readTask ← required (tasks.lookup name)
  return ⟨p.value? "config", (p.value? "log-level").bind Level.read?, ← readTask rest⟩

end CarrierAuth.CommandLine
