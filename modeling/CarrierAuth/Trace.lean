import CarrierAuth.Key.Basic
import CarrierAuth.Log
import CarrierAuth.Method

/-
  Traces — what a computation does besides computing, as data.

  `Traced α` is a value together with the acts done while computing it, oldest
  first: events logged, commands put to the card with their replies, encryptions
  asked for, and lines printed. A computation can only add acts, and those of its
  first part stand in front (`trace_bind`).
-/
namespace CarrierAuth

/-- A command to the card: run an algorithm of an application on a challenge,
given in Base64. -/
structure Command where
  app : CardApp
  algorithm : CardAlgorithm
  challenge : String
  deriving DecidableEq, Repr

/-- One act of a computation. -/
inductive Act where
  | logged (e : Event)
  | asked (c : Command) (reply : Option String)
  | enciphered (key : PublicKey)
  | printed (line : String)
  deriving DecidableEq, Repr

namespace Act

def event? : Act → Option Event
  | .logged e => some e
  | _ => none

def command? : Act → Option Command
  | .asked c _ => some c
  | _ => none

def line? : Act → Option String
  | .printed l => some l
  | _ => none

def isEncryption : Act → Bool
  | .enciphered _ => true
  | _ => false

end Act

/-- A value and the acts done while computing it. -/
structure Traced (α : Type) where
  value : α
  trace : List Act

namespace Traced

/-- A value computed without any act. -/
def quiet {α : Type} (a : α) : Traced α := ⟨a, []⟩

/-- Two computations one after the other. -/
def andThen {α β : Type} (x : Traced α) (f : α → Traced β) : Traced β :=
  ⟨(f x.value).value, x.trace ++ (f x.value).trace⟩

instance : Monad Traced where
  pure := quiet
  bind := andThen

def act (a : Act) : Traced Unit := ⟨(), [a]⟩

def log (events : List Event) : Traced Unit := ⟨(), events.map .logged⟩

def events {α : Type} (x : Traced α) : List Event := x.trace.filterMap Act.event?

def commands {α : Type} (x : Traced α) : List Command := x.trace.filterMap Act.command?

def print (line : String) : Traced Unit := act (.printed line)

def lines {α : Type} (x : Traced α) : List String := x.trace.filterMap Act.line?

def encryptions {α : Type} (x : Traced α) : Nat := x.trace.countP Act.isEncryption

@[simp] theorem value_pure {α : Type} (a : α) : (pure a : Traced α).value = a := rfl

@[simp] theorem trace_pure {α : Type} (a : α) : (pure a : Traced α).trace = [] := rfl

@[simp] theorem value_bind {α β : Type} (x : Traced α) (f : α → Traced β) :
    (x >>= f).value = (f x.value).value := rfl

@[simp] theorem trace_bind {α β : Type} (x : Traced α) (f : α → Traced β) :
    (x >>= f).trace = x.trace ++ (f x.value).trace := rfl

@[simp] theorem trace_log (es : List Event) : (log es).trace = es.map .logged := rfl

@[simp] theorem events_pure {α : Type} (a : α) : (pure a : Traced α).events = [] := rfl

@[simp] theorem events_bind {α β : Type} (x : Traced α) (f : α → Traced β) :
    (x >>= f).events = x.events ++ (f x.value).events := by
  simp [events]

@[simp] theorem events_log (es : List Event) : (log es).events = es := by
  simp [events, List.filterMap_map, Function.comp_def, Act.event?]

@[simp] theorem lines_pure {α : Type} (a : α) : (pure a : Traced α).lines = [] := rfl

@[simp] theorem lines_log (es : List Event) : (log es).lines = [] := by
  simp [lines, Act.line?]

@[simp] theorem lines_print (line : String) : (print line).lines = [line] := rfl

@[simp] theorem lines_bind {α β : Type} (x : Traced α) (f : α → Traced β) :
    (x >>= f).lines = x.lines ++ (f x.value).lines := by
  simp [lines]

@[simp] theorem commands_bind {α β : Type} (x : Traced α) (f : α → Traced β) :
    (x >>= f).commands = x.commands ++ (f x.value).commands := by
  simp [commands]

@[simp] theorem commands_pure {α : Type} (a : α) : (pure a : Traced α).commands = [] := rfl

@[simp] theorem commands_log (es : List Event) : (log es).commands = [] := by
  simp [commands, Act.command?]

end Traced

end CarrierAuth
