import CarrierAuth.Card.Gsm
import CarrierAuth.Card.Umts

/-
  One program on two cards — an authentication is written once for every card, and all it
  learns of the card are the replies to its commands.

  `SameProgram card card' x y` says so of two sessions, of which one may run on a card of
  another kind of state: they take the same steps, a command of the one being put to `card`
  and of the other to `card'`. It follows the construction of a session, so what holds of one
  command carries over to whole sessions, whatever they compute.

  What is proved:
    1. `Gsm.sameProgram_authenticate`, `Umts.sameProgram_authenticate` — authentications on
       any two cards are the same program.
    2. `SameProgram.simulates` — on cards that cannot be told apart by one command, the same
       program gives the same and leaves the same trace.
    3. `SameProgram.preserves` — what no command changes about a card, no session changes.
-/
namespace CarrierAuth

variable {σ τ α β : Type}

namespace Session

/-- Whether two sessions are one program, run on two cards. -/
inductive SameProgram (card : Card σ) (card' : Card τ) :
    {α : Type} → Session σ α → Session τ α → Prop where
  | offline {α : Type} (x : Traced α) : SameProgram card card' (offline x) (offline x)
  | ask (c : Command) : SameProgram card card' (ask card c) (ask card' c)
  | bind {α β : Type} {x : Session σ α} {y : Session τ α} {f : α → Session σ β}
      {g : α → Session τ β} (hfirst : SameProgram card card' x y)
      (hrest : ∀ a, SameProgram card card' (f a) (g a)) : SameProgram card card' (x >>= f) (y >>= g)

theorem trace_run_bind (x : Session σ α) (f : α → Session σ β) (s : σ) :
    ((x >>= f).run s).trace =
      (x.run s).trace ++ ((f (x.result s)).run (x.finalState s)).trace := rfl

namespace SameProgram

variable {card : Card σ} {card' : Card τ} {x : Session σ α} {y : Session τ α}

theorem pure (a : α) : SameProgram card card' (Pure.pure a) (Pure.pure a) :=
  .offline (Pure.pure a)

/-- Cards that stay in a relation in which they reply alike cannot be told apart. -/
theorem simulates {R : σ → τ → Prop}
    (hcards : ∀ s t c, R s t → (card s c).1 = (card' t c).1 ∧ R (card s c).2 (card' t c).2)
    (h : SameProgram card card' x y) {s : σ} {t : τ} (hst : R s t) :
    x.result s = y.result t ∧ (x.run s).trace = (y.run t).trace ∧
      R (x.finalState s) (y.finalState t) := by
  induction h generalizing s t with
  | offline x => exact ⟨rfl, rfl, hst⟩
  | ask c =>
    obtain ⟨hreply, hnext⟩ := hcards s t c hst
    exact ⟨hreply, congrArg (fun reply => [Act.asked c reply]) hreply, hnext⟩
  | @bind α β x y f g _ _ ihfirst ihrest =>
    obtain ⟨hvalue, htrace, hmiddle⟩ := ihfirst hst
    obtain ⟨hresult, htrace', hfinal⟩ := ihrest (x.result s) hmiddle
    rw [result_bind, result_bind, trace_run_bind, trace_run_bind, finalState_bind,
      finalState_bind, ← hvalue, htrace, htrace']
    exact ⟨hresult, rfl, hfinal⟩

/-- A session leaves as it is what every command leaves as it is. -/
theorem preserves {I : σ → Prop} (hcard : ∀ s c, I s → I (card s c).2)
    (h : SameProgram card card' x y) {s : σ} (hs : I s) : I (x.finalState s) := by
  induction h generalizing s with
  | offline x => exact hs
  | ask c => exact hcard s c hs
  | bind _ _ ihfirst ihrest => exact ihrest _ (ihfirst hs)

end SameProgram

end Session

open Session (SameProgram)

variable (card : Card σ) (card' : Card τ)

namespace Gsm

theorem sameProgram_answer (layout : GsmLayout) (app : CardApp) (index : Nat) (data : Octets) :
    SameProgram card card' (answer card layout app index data)
      (answer card' layout app index data) :=
  .bind (.offline _) fun _ => .bind (.ask _) fun _ => .offline _

theorem sameProgram_answerFrom (layout : GsmLayout) (app : CardApp) (index : Nat)
    (challenges : List String) :
    SameProgram card card' (answerFrom card layout app index challenges)
      (answerFrom card' layout app index challenges) := by
  induction challenges generalizing index with
  | nil => exact .pure _
  | cons text rest ih =>
    rw [answerFrom, answerFrom]
    by_cases hblank : Text.isBlank text = true
    · rw [if_pos hblank, if_pos hblank]
      exact ih (index + 1)
    · rw [if_neg hblank, if_neg hblank]
      cases encodeChallenge layout text with
      | error fault => exact .bind (.offline _) fun _ => ih (index + 1)
      | ok data =>
        refine .bind (sameProgram_answer card card' layout app index data) fun outcome => ?_
        cases outcome with
        | error fault => exact .pure _
        | ok record => exact .bind (ih (index + 1)) fun records => .pure _

theorem sameProgram_authenticate (layout : GsmLayout) (app : CardApp)
    (challenges : List String) :
    SameProgram card card' (authenticate card layout app challenges)
      (authenticate card' layout app challenges) :=
  sameProgram_answerFrom card card' layout app 0 challenges

end Gsm

theorem Umts.sameProgram_authenticate (challenges : List String) :
    SameProgram card card' (Umts.authenticate card challenges)
      (Umts.authenticate card' challenges) := by
  rw [authenticate, authenticate]
  cases encodeChallenge challenges with
  | error fault => exact .pure _
  | ok data => exact .bind (.offline _) fun _ => .bind (.ask _) fun _ => .offline _

end CarrierAuth
