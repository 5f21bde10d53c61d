import CarrierAuth.CommandLine.Invocation
import CarrierAuth.Card.Answer
import CarrierAuth.Identity.Permanent
import CarrierAuth.Identity.Temporary
import CarrierAuth.Key.Pem
import CarrierAuth.Log.Filter
import CarrierAuth.Log.Line
import CarrierAuth.Settings.Text

/-
  The program — carries out an invocation: builds an identity, or decodes a reply of
  a card that was captured earlier. It talks to no card.

  Three texts are left out, because the libraries behind the program word them. The messages
  about a carrier key and about settings that cannot be parsed stop at `Invalid public key:`
  and `YAML parse error:`, without the reason that the parser gives. And `usageText` only
  holds the place of the help text and of the complaint about arguments; when they are shown,
  on which stream and with which status is told here.
-/
namespace CarrierAuth.CommandLine

/-- What the program finds around it. -/
structure Surroundings where
  /-- The text of a file. -/
  contents : String → Except FileFault String
  /-- The filter asked for by the user's environment. -/
  logFilter : Option String := none
  cipher : Cipher

inductive ProgramFault where
  | settings (path : String) (fault : SettingsFault)
  | identity (fault : IdentityFault)
  | keyFile (path : String) (fault : FileFault)
  | key
  | encryption (fault : IdentityFault)
  | operator (fault : IdentityFault)
  | emptyPseudonym
  | reply (fault : AuthFault)
  | gsm (fault : AuthFault)
  | umts (fault : AuthFault)
  deriving DecidableEq, Repr

/-- The wording of what is wrong with settings, with its cause behind it. -/
def settingsMessage : SettingsFault → String
  | .unreadable fault =>
    (SettingsFault.unreadable fault).message ++ ": " ++ fault.message
  | .malformed => SettingsFault.malformed.message

/-- The wording of a fault. Why a key cannot be parsed is not told. -/
def ProgramFault.message : ProgramFault → String
  | .settings path fault => "Failed to load config " ++ path ++ ": " ++ settingsMessage fault
  | .identity fault => "Failed to build identity: " ++ fault.message
  | .keyFile path fault => "Failed to read key " ++ path ++ ": " ++ fault.message
  | .key => "Failed to parse carrier key: Invalid public key:"
  | .encryption fault => "Failed to encrypt identity: " ++ fault.message
  | .operator fault => fault.message
  | .emptyPseudonym => "Pseudonym is empty"
  | .reply fault => fault.message
  | .gsm fault => "Invalid GSM response: " ++ fault.message
  | .umts fault => "Invalid UMTS response: " ++ fault.message

/-! ## Tasks -/

/-- Prints the encrypted form of an identity under the key in a file. -/
def printEncrypted (env : Surroundings) (path : String) (keyId : Option String)
    (identity : String) : Traced (Except ProgramFault Unit) :=
  match env.contents path with
  | .error fault => return .error (.keyFile path fault)
  | .ok pem =>
    match Pem.readKey pem with
    | none => return .error .key
    | some key => do
      match ← Identity.encrypted env.cipher ⟨key, keyId⟩ identity with
      | .error fault => return .error (.encryption fault)
      | .ok encrypted =>
        Traced.print ("encrypted: " ++ Text.asciiEscape encrypted)
        return .ok ()

/-- Prints the permanent identity and, with a key, its encrypted form. -/
def printIdentity (env : Surroundings) (method : EapMethod) (imsi code : String)
    (keyFile keyId : Option String) : Traced (Except ProgramFault Unit) := do
  match ← Identity.permanent method imsi code with
  | .error fault => return .error (.identity fault)
  | .ok identity =>
    Traced.print ("identity: " ++ identity)
    match keyFile with
    | none => return .ok ()
    | some path => printEncrypted env path keyId identity

def printAnonymous (method : EapMethod) (code : String) (withDigit : Bool) :
    Traced (Except ProgramFault Unit) :=
  match Operator.ofCode code with
  | .error fault => return .error (.operator fault)
  | .ok op => do
    Traced.print (Identity.anonymous method op withDigit)
    return .ok ()

def printPseudonym (pseudonym code : String) : Traced (Except ProgramFault Unit) :=
  match Operator.ofCode code with
  | .error fault => return .error (.operator fault)
  | .ok op =>
    match Identity.decorate? pseudonym op with
    | none => return .error .emptyPseudonym
    | some decorated => do
      Traced.print decorated
      return .ok ()

def printRecord (record : GsmRecord) : Traced Unit := do
  Traced.print ("sres: " ++ Hex.encode record.sres)
  Traced.print ("kc:   " ++ Hex.encode record.kc)
  Traced.print (Answer.ofRecords [record]).render

/-- Prints what a GSM reply holds. -/
def printGsm (layout : GsmLayout) (reply : String) : Traced (Except ProgramFault Unit) :=
  match replyOctets (some reply) with
  | .error fault => return .error (.reply fault)
  | .ok data => do
    match ← Gsm.decode layout data with
    | .error fault => return .error (.gsm fault)
    | .ok record =>
      printRecord record
      return .ok ()

def printUmts (reply : String) : Traced (Except ProgramFault Unit) :=
  match replyOctets (some reply) with
  | .error fault => return .error (.reply fault)
  | .ok data => do
    match ← Umts.decode data with
    | .error fault => return .error (.umts fault)
    | .ok result =>
      Traced.print result.answer.render
      return .ok ()

def Task.run (env : Surroundings) : Task → Traced (Except ProgramFault Unit)
  | .identity method imsi code keyFile keyId =>
    printIdentity env method imsi code keyFile keyId
  | .anonymous method code withDigit => printAnonymous method code withDigit
  | .pseudonym name code => printPseudonym name code
  | .decodeGsm layout reply => printGsm layout reply
  | .decodeUmts reply => printUmts reply

/-! ## Runs -/

def loadSettings (env : Surroundings) (inv : Invocation) : Except ProgramFault ClientSettings :=
  match inv.settingsFile with
  | none => .ok {}
  | some path => (ClientSettings.load (env.contents path)).mapError (.settings path)

/-- The filter of the log: the one of the environment where it can be read, else the
level on the command line, else the one in the settings. -/
def logFilter (env : Surroundings) (inv : Invocation) (settings : ClientSettings) : Filter :=
  (env.logFilter.bind Filter.read?).getD (Filter.ofLevel (inv.level.getD settings.logLevel))

/-- The event for settings that are loaded. -/
def loadedEvent (settings : ClientSettings) : Event :=
  { origin := .program, level := .debug, message := "Configuration loaded"
    fields := [("carriers", .number settings.carriers.entries.length)] }

/-- Carries out an invocation once its settings are loaded. -/
def runWith (env : Surroundings) (task : Task) (settings : ClientSettings) :
    Traced (Except ProgramFault Unit) := do
  Traced.log [loadedEvent settings]
  task.run env

/-- What the program shows: a line, or an event of the log. -/
inductive Shown where
  | line (text : String)
  | event (e : Event)
  deriving DecidableEq, Repr

/-- What an act shows under a filter. -/
def Shown.ofAct (f : Filter) : Act → Option Shown
  | .printed text => some (.line text)
  | .logged e => if f.shows e then some (.event e) else none
  | _ => none

/-- What the program leaves behind: its exit status, what it shows, and its
complaint. -/
structure Outcome where
  status : Nat
  shown : List Shown := []
  complaint : Option String := none
  deriving DecidableEq, Repr

/-- The outcome of a failure after something was shown. -/
def Outcome.failure (shown : List Shown) (fault : ProgramFault) : Outcome :=
  ⟨1, shown, some ("ERROR: " ++ fault.message)⟩

/-- Carries out an invocation. Nothing is logged before the settings are loaded. -/
def Invocation.run (env : Surroundings) (inv : Invocation) : Outcome :=
  match loadSettings env inv with
  | .error fault => .failure [] fault
  | .ok settings =>
    let work := runWith env inv.task settings
    let shown := work.trace.filterMap (Shown.ofAct (logFilter env inv settings))
    match work.value with
    | .ok () => { status := 0, shown := shown }
    | .error fault => .failure shown fault

def programName : String := "eapsim"

def programVersion : String := "0.1.0"

/-- What stands for the text of the help, and for that of the complaint about arguments. -/
def usageText : String :=
  "Usage: " ++ programName ++ " [-c FILE] [-l LEVEL] COMMAND\n\n"
    ++ "  identity -m METHOD -i IMSI [-o MCC_MNC] [-k PEM [--key-id ID]]\n"
    ++ "  anonymous -m METHOD -o MCC_MNC [-p]\n"
    ++ "  pseudonym PSEUDONYM -o MCC_MNC\n"
    ++ "  decode-gsm RESPONSE\n"
    ++ "  decode-gsm-fixed RESPONSE\n"
    ++ "  decode-umts RESPONSE"

/-- The outcome where there is nothing to carry out. -/
def Stop.outcome : Stop → Outcome
  | .usage => { status := 2, complaint := some usageText }
  | .help => { status := 0, shown := [.line usageText] }
  | .version => { status := 0, shown := [.line (programName ++ " " ++ programVersion)] }

/-- Runs the program on its arguments. -/
def run (env : Surroundings) (args : List String) : Outcome :=
  match Invocation.ofArguments args with
  | .error stop => stop.outcome
  | .ok inv => inv.run env

end CarrierAuth.CommandLine
