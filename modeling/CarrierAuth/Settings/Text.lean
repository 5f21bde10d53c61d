import CarrierAuth.Schema.Domain
import CarrierAuth.Yaml.Writer

/-
  Settings as text — reading and writing settings in YAML, and reading them from a
  file.
-/
namespace CarrierAuth

/-- Why a file cannot be read as text. -/
inductive FileFault where
  | missing
  | directory
  | notDirectory
  | notText
  | failed (reason : String)
  deriving DecidableEq, Repr

def FileFault.message : FileFault → String
  | .missing => "No such file or directory (os error 2)"
  | .notDirectory => "Not a directory (os error 20)"
  | .directory => "Is a directory (os error 21)"
  | .notText => "stream did not contain valid UTF-8"
  | .failed reason => reason

/-- Why settings cannot be loaded. -/
inductive SettingsFault where
  | unreadable (fault : FileFault)
  | malformed
  deriving DecidableEq, Repr

/-- The wording of a fault. What is wrong with a malformed text is not told. -/
def SettingsFault.message : SettingsFault → String
  | .unreadable fault => "I/O error: " ++ fault.message
  | .malformed => "YAML parse error:"

def fileText (data : Octets) : Except FileFault String :=
  match String.fromUTF8? ⟨data.toArray⟩ with
  | some text => .ok text
  | none => .error .notText

namespace NetworkMethod

def ofYaml? (text : String) : Option NetworkMethod := Yaml.read Schema.network text

end NetworkMethod

namespace ClientSettings

def ofYaml? (text : String) : Option ClientSettings := Yaml.read Schema.settings text

def toYaml (s : ClientSettings) : String := Yaml.write Schema.settings s

/-- Loads settings from what reading a file has given. -/
def load (file : Except FileFault String) : Except SettingsFault ClientSettings :=
  match file with
  | .error fault => .error (.unreadable fault)
  | .ok text =>
    match ofYaml? text with
    | some s => .ok s
    | none => .error .malformed

end ClientSettings

end CarrierAuth
