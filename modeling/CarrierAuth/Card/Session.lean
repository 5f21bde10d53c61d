import CarrierAuth.Card.Reply
import CarrierAuth.Trace

/-
  Sessions with a card — a card is any state machine that answers commands with a
  text or with nothing, and a session is a computation that may put commands to
  it.
-/
namespace CarrierAuth

/-- A card: its answer to a command in a state, and its state after that. -/
abbrev Card (σ : Type) := σ → Command → Option String × σ

/-- A computation that may use a card whose states are `σ`. -/
abbrev Session (σ α : Type) := StateT σ Traced α

namespace Session

/-- Does what needs no card. -/
def offline {σ α : Type} (x : Traced α) : Session σ α := fun s => ⟨(x.value, s), x.trace⟩

/-- Puts one command to the card. -/
def ask {σ : Type} (card : Card σ) (c : Command) : Session σ (Option String) := fun s =>
  let (reply, s') := card s c
  ⟨(reply, s'), [.asked c reply]⟩

def log {σ : Type} (events : List Event) : Session σ Unit := offline (Traced.log events)

/-- The value computed in a session that starts in a state. -/
def result {σ α : Type} (x : Session σ α) (s : σ) : α := (x.run s).value.1

/-- The card's state after a session. -/
def finalState {σ α : Type} (x : Session σ α) (s : σ) : σ := (x.run s).value.2

def commands {σ α : Type} (x : Session σ α) (s : σ) : List Command := (x.run s).commands

def events {σ α : Type} (x : Session σ α) (s : σ) : List Event := (x.run s).events

section
variable {σ α β : Type}

@[simp] theorem result_pure (a : α) (s : σ) : result (pure a : Session σ α) s = a := rfl

@[simp] theorem finalState_pure (a : α) (s : σ) : finalState (pure a : Session σ α) s = s := rfl

@[simp] theorem commands_pure (a : α) (s : σ) : commands (pure a : Session σ α) s = [] := rfl

@[simp] theorem events_pure (a : α) (s : σ) : events (pure a : Session σ α) s = [] := rfl

@[simp] theorem result_bind (x : Session σ α) (f : α → Session σ β) (s : σ) :
    result (x >>= f) s = result (f (result x s)) (finalState x s) := rfl

@[simp] theorem finalState_bind (x : Session σ α) (f : α → Session σ β) (s : σ) :
    finalState (x >>= f) s = finalState (f (result x s)) (finalState x s) := rfl

@[simp] theorem commands_bind (x : Session σ α) (f : α → Session σ β) (s : σ) :
    commands (x >>= f) s = commands x s ++ commands (f (result x s)) (finalState x s) :=
  Traced.commands_bind (x.run s) fun p => (f p.1).run p.2

@[simp] theorem events_bind (x : Session σ α) (f : α → Session σ β) (s : σ) :
    events (x >>= f) s = events x s ++ events (f (result x s)) (finalState x s) :=
  Traced.events_bind (x.run s) fun p => (f p.1).run p.2

@[simp] theorem result_offline (x : Traced α) (s : σ) : result (offline x) s = x.value := rfl

@[simp] theorem finalState_offline (x : Traced α) (s : σ) : finalState (offline x) s = s := rfl

@[simp] theorem commands_offline (x : Traced α) (s : σ) : commands (offline x) s = x.commands := rfl

@[simp] theorem events_offline (x : Traced α) (s : σ) : events (offline x) s = x.events := rfl

@[simp] theorem result_ask (card : Card σ) (c : Command) (s : σ) :
    result (ask card c) s = (card s c).1 := rfl

@[simp] theorem finalState_ask (card : Card σ) (c : Command) (s : σ) :
    finalState (ask card c) s = (card s c).2 := rfl

@[simp] theorem commands_ask (card : Card σ) (c : Command) (s : σ) :
    commands (ask card c) s = [c] := rfl

@[simp] theorem events_ask (card : Card σ) (c : Command) (s : σ) :
    events (ask card c) s = [] := rfl

@[simp] theorem finalState_log (es : List Event) (s : σ) : finalState (log es) s = s := rfl

@[simp] theorem commands_log (es : List Event) (s : σ) : commands (log es) s = [] :=
  Traced.commands_log es

@[simp] theorem events_log (es : List Event) (s : σ) : events (log es) s = es :=
  Traced.events_log es

end

end Session

end CarrierAuth
