import CarrierAuth.Card.Session

/-
  Scripted cards — a card that answers from a table of challenges and keeps the
  commands it received.
-/
namespace CarrierAuth

/-- A table of answers, the answer to everything else, and the commands received,
oldest first. -/
structure ScriptedCard where
  answers : List (Octets × Option String) := []
  otherwise : Option Octets := none
  received : List Command := []
  deriving DecidableEq, Repr

namespace ScriptedCard

/-- The answer to a challenge: the last entry for it in the table counts. -/
def lookup (c : ScriptedCard) (challenge : Octets) : Option String :=
  match c.answers.reverse.lookup challenge with
  | some reply => reply
  | none => c.otherwise.map Base64.encode

/-- Answers a command. A challenge that is no Base64 text gets no answer. -/
def answer : Card ScriptedCard := fun c command =>
  let reply := match readBase64 command.challenge with
    | .ok challenge => c.lookup challenge
    | .error _ => none
  (reply, { c with received := c.received ++ [command] })

end ScriptedCard

/-- The place of a card that may be missing: no card answers nothing. -/
def Card.optional {σ : Type} (card : Card σ) : Card (Option σ)
  | some s, c => let (reply, s') := card s c; (reply, some s')
  | none, _ => (none, none)

end CarrierAuth
