/-
  Arguments — options and words of a command line.

  An option has a long name behind two hyphens and may have a letter behind one. Its
  value follows in the next argument or is attached: behind an equals sign, and to a
  letter also without one. Letters without a value may share a hyphen. Behind two
  hyphens alone every argument is a word. No option may be given twice.
-/
namespace CarrierAuth.CommandLine

/-- What an option is for. -/
inductive OptionKind where
  /-- It has a value, of which a test tells whether it will do. -/
  | value (accepts : String → Bool)
  | switch
  | help
  | version

structure OptionSpec where
  long : String
  short : Option Char := none
  kind : OptionKind

/-- Why reading the arguments stops. -/
inductive Stop where
  | usage
  | help
  | version
  deriving DecidableEq, Repr

/-- The options given, in reverse order, with their values, and the words. -/
structure Parsed where
  options : List (String × Option String) := []
  words : List String := []
  deriving DecidableEq, Repr

namespace Parsed

def value? (p : Parsed) (long : String) : Option String := (p.options.lookup long).join

def has (p : Parsed) (long : String) : Bool := (p.options.lookup long).isSome

/-- Adds an option that is not there yet. -/
def addOption (p : Parsed) (long : String) (value : Option String) : Except Stop Parsed :=
  if p.has long then .error .usage
  else .ok { p with options := (long, value) :: p.options }

/-- Adds a word where there is room for one. -/
def addWord (p : Parsed) (room : Nat) (word : String) : Except Stop Parsed :=
  if p.words.length < room then .ok { p with words := p.words ++ [word] } else .error .usage

end Parsed

/-- What an argument looks like. -/
inductive Argument where
  | word (s : String)
  /-- Two hyphens alone. -/
  | separator
  | long (name : String) (attached : Option String)
  | letters (cs : List Char)

/-- Takes an argument apart. A hyphen alone is a word. -/
def Argument.ofText (s : String) : Argument :=
  match s.toList with
  | ['-', '-'] => .separator
  | '-' :: '-' :: rest =>
    let name := rest.takeWhile (· != '=')
    match rest.dropWhile (· != '=') with
    | _ :: value => .long (String.ofList name) (some (String.ofList value))
    | [] => .long (String.ofList name) none
  | ['-'] => .word s
  | '-' :: rest => .letters rest
  | _ => .word s

/-- The option that the last argument leaves without its value. -/
abbrev Awaiting := Option (String × (String → Bool))

def giveValue (p : Parsed) (long : String) (accepts : String → Bool) (value : String) :
    Except Stop Parsed := do
  let p ← p.addOption long (some value)
  if accepts value then return p else throw .usage

def takeLong (specs : List OptionSpec) (p : Parsed) (name : String) (attached : Option String) :
    Except Stop (Parsed × Awaiting) :=
  match specs.find? (·.long == name) with
  | none => .error .usage
  | some spec =>
    match spec.kind, attached with
    | .value accepts, some value => do return (← giveValue p name accepts value, none)
    | .value accepts, none => .ok (p, some (name, accepts))
    | _, some _ => .error .usage
    | .switch, none => do return (← p.addOption name none, none)
    | .help, none => .error .help
    | .version, none => .error .version

def attachedValue : List Char → Option String
  | [] => none
  | '=' :: rest => some (String.ofList rest)
  | rest => some (String.ofList rest)

def takeLetters (specs : List OptionSpec) (p : Parsed) :
    List Char → Except Stop (Parsed × Awaiting)
  | [] => .ok (p, none)
  | c :: rest =>
    match specs.find? (·.short == some c) with
    | none => .error .usage
    | some spec =>
      match spec.kind with
      | .value accepts =>
        match attachedValue rest with
        | some value => do return (← giveValue p spec.long accepts value, none)
        | none => .ok (p, some (spec.long, accepts))
      | .switch => do takeLetters specs (← p.addOption spec.long none) rest
      | .help => .error .help
      | .version => .error .version

/-- Reads arguments with room for a number of words. -/
def parse (specs : List OptionSpec) (room : Nat) :
    Parsed → Awaiting → List String → Except Stop Parsed
  | p, none, [] => .ok p
  | _, some _, [] => .error .usage
  | p, some (long, accepts), arg :: rest =>
    match Argument.ofText arg with
    | .word value => do parse specs room (← giveValue p long accepts value) none rest
    | _ => .error .usage
  | p, none, arg :: rest =>
    match Argument.ofText arg with
    | .word word => do parse specs room (← p.addWord room word) none rest
    | .separator => rest.foldlM (fun p word => p.addWord room word) p
    | .long name attached => do
      let (p, awaiting) ← takeLong specs p name attached
      parse specs room p awaiting rest
    | .letters cs => do
      let (p, awaiting) ← takeLetters specs p cs
      parse specs room p awaiting rest

/-- Reads the options in front of the first word; gives that word and the arguments
behind it. -/
def parseHead (specs : List OptionSpec) :
    Parsed → Awaiting → List String → Except Stop (Parsed × String × List String)
  | _, _, [] => .error .usage
  | p, some (long, accepts), arg :: rest =>
    match Argument.ofText arg with
    | .word value => do parseHead specs (← giveValue p long accepts value) none rest
    | _ => .error .usage
  | p, none, arg :: rest =>
    match Argument.ofText arg with
    | .word word => .ok (p, word, rest)
    | .separator => .error .usage
    | .long name attached => do
      let (p, awaiting) ← takeLong specs p name attached
      parseHead specs p awaiting rest
    | .letters cs => do
      let (p, awaiting) ← takeLetters specs p cs
      parseHead specs p awaiting rest

end CarrierAuth.CommandLine
