import CarrierAuth.Cipher.Oaep
import CarrierAuth.CommandLine.Program

/-
  The command line — reads files, runs the program on its arguments, and prints what
  it shows.
-/
namespace CarrierAuth.CommandLine

/-- The fault behind an error of the system. -/
def fileFault : IO.Error → FileFault
  | .noFileOrDirectory .. => .missing
  | .inappropriateType .. => .directory
  | e => .failed (toString e)

def readTextFile (path : String) : IO (Except FileFault String) := do
  try
    return fileText (← IO.FS.readBinFile path).toList
  catch e => return .error (fileFault e)

/-- The files that arguments name, with their texts. -/
def readFiles (args : List String) : IO (List (String × Except FileFault String)) :=
  match Invocation.ofArguments args with
  | .error _ => return []
  | .ok inv => inv.files.mapM fun path => do return (path, ← readTextFile path)

def Shown.print : Shown → IO Unit
  | .line text => IO.println text
  | .event e => IO.println e.line

/-- Runs the program: reads the files it needs, and shows its outcome. -/
def start (args : List String) : IO UInt32 := do
  let files ← readFiles args
  let seed ← IO.getRandomBytes (USize.ofNat Sha256.size)
  let outcome := run
    { contents := fun path => (files.lookup path).getD (.error .missing)
      logFilter := ← IO.getEnv "RUST_LOG"
      cipher := Oaep.cipher seed.toList } args
  outcome.shown.forM Shown.print
  if let some complaint := outcome.complaint then IO.eprintln complaint
  return UInt32.ofNat outcome.status

end CarrierAuth.CommandLine

def main (args : List String) : IO UInt32 := CarrierAuth.CommandLine.start args
