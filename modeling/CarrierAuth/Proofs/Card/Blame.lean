import CarrierAuth.Proofs.Card.ReplyGrammar
import CarrierAuth.Proofs.Card.UmtsChallenge

/-
  Blame — whether a fault is put down to the card's reply or to the challenge.

  A caller asks another card, or sends the challenge again, by what a fault blames.
  So a fault must blame the reply when there was one, and the challenge when nothing
  was put to the card.

  What is proved:
    1. `Blames` — what all faults of a step blame; the steps before the command blame
       the challenge (`Umts.blames_encodeChallenge`), those behind it the reply
       (`Gsm.blames_outcome`, `Umts.blames_outcome`).
    2. `Umts.singleBlame_authenticate` — a UMTS fault blames the reply exactly when a
       command was sent.
    3. `Gsm.batchBlame_authenticate` — a GSM fault blames the reply to the last command
       that was sent.
-/
namespace CarrierAuth

variable {σ α β ε : Type}

/-! ## Faults of a step -/

/-- Whether every fault of a step puts the blame on the reply, or every one on the
challenge. -/
def Blames (onReply : Bool) (x : Except AuthFault α) : Prop :=
  ∀ fault, x = .error fault → fault.blamesReply = onReply

namespace Blames

theorem ok (onReply : Bool) (a : α) : Blames onReply (.ok a) := by
  intro fault h
  cases h

theorem error {onReply : Bool} {fault : AuthFault} (h : fault.blamesReply = onReply) :
    Blames onReply (.error fault : Except AuthFault α) := by
  intro fault' h'
  cases h'
  exact h

theorem bind {onReply : Bool} {x : Except AuthFault α} {f : α → Except AuthFault β}
    (hx : Blames onReply x) (hf : ∀ a, Blames onReply (f a)) : Blames onReply (x >>= f) := by
  intro fault h
  cases x with
  | ok a => exact hf a fault h
  | error =>
    cases h
    exact hx _ rfl

theorem map {onReply : Bool} {x : Except AuthFault α} {f : α → β} (hx : Blames onReply x) :
    Blames onReply (x.map f) := by
  intro fault h
  cases x with
  | ok a => cases h
  | error =>
    cases h
    exact hx _ rfl

theorem mapError {onReply : Bool} {x : Except ε α} {f : ε → AuthFault}
    (hf : ∀ e, (f e).blamesReply = onReply) : Blames onReply (x.mapError f) := by
  intro fault h
  cases x with
  | ok a => cases h
  | error e =>
    cases h
    exact hf e

end Blames

theorem blames_replyOctets (reply : Option String) : Blames true (replyOctets reply) := by
  cases reply with
  | none => exact .error rfl
  | some text =>
    rw [replyOctets]
    split
    · exact .error rfl
    · exact .mapError fun _ => rfl

theorem blames_readField (field : ReplyField) (data : Octets) :
    Blames true (readField field data) := by
  refine .mapError fun e => ?_
  cases e <;> rfl

namespace Gsm

theorem blames_readCounted (data : Octets) : Blames true (readCounted data) := by
  by_cases hshort : data.length ≤ shortestReply
  · rw [readCounted_of_short hshort]
    exact .error rfl
  · simp only [readCounted, hshort, if_false]
    exact .bind (blames_readField _ _) fun _ => .bind (blames_readField _ _) fun _ => .ok _ _

theorem blames_decode (layout : GsmLayout) (data : Octets) :
    Blames true (decode layout data).value := by
  cases layout with
  | counted =>
    rw [decode, decodeCounted_value]
    exact (blames_readCounted data).map
  | fixed =>
    rw [decode, Traced.value_pure, readFixed]
    split
    · exact .ok _ _
    · exact .error rfl

theorem blames_outcome (layout : GsmLayout) (reply : Option String) :
    Blames true (outcome layout reply) :=
  .bind (blames_replyOctets reply) fun data => blames_decode layout data

end Gsm

namespace Umts

theorem blames_readTagged (data : Octets) : Blames true (readTagged data) := by
  cases data with
  | nil => exact .error rfl
  | cons b data =>
    refine .bind ?_ fun tag => ?_
    · rw [UmtsTag.ofOctet]
      split
      · exact .ok _ _
      · split
        · exact .ok _ _
        · exact .error rfl
    · cases tag with
      | success =>
        exact .bind (blames_readField _ _) fun _ => .bind (blames_readField _ _) fun _ =>
          .bind (blames_readField _ _) fun _ => .ok _ _
      | syncFailure => exact .bind (blames_readField _ _) fun _ => .ok _ _

theorem blames_outcome (reply : Option String) : Blames true (outcome reply) := by
  refine .bind (blames_replyOctets reply) fun data => ?_
  rw [decode_value]
  exact (blames_readTagged data).map

theorem blames_encodeChallenge (challenges : List String) :
    Blames false (encodeChallenge challenges) := by
  unfold encodeChallenge
  split
  · exact .bind (.mapError fun _ => rfl) fun _ => .bind (.mapError fun _ => rfl) fun _ => .ok _ _
  · exact .error rfl

end Umts

/-! ## Faults of a session -/

open Session (Report)

/-- Whether a session with a single challenge puts the blame right. Its faults are the
faults `wrap fault`. -/
structure SingleBlame (wrap : AuthFault → ε) (r : Report σ (Except ε α)) : Prop where
  reply_iff_sent : ∀ fault, r.result = .error (wrap fault) →
    (fault.blamesReply = true ↔ r.commands ≠ [])
  challenge_iff_unsent : ∀ fault, r.result = .error (wrap fault) →
    (fault.blamesReply = false ↔ r.commands = [])
  one_command : ∀ a, r.result = .ok a → ∃ c, r.commands = [c]

/-- Whether a session with a batch of challenges, started in a state of the card, puts
the blame right: on the reply to the last command, after usable replies to all others. -/
structure BatchBlame (card : Card σ) (layout : GsmLayout) (s : σ) (wrap : AuthFault → ε)
    (r : Report σ (Except ε α)) : Prop where
  reply : ∀ fault, r.result = .error (wrap fault) → fault.blamesReply = true
  last_command : ∀ fault, r.result = .error (wrap fault) →
    ∃ (earlier : List Command) (last : Command),
      r.commands = earlier ++ [last] ∧
      (∀ reply ∈ card.replies s earlier, ∃ record, Gsm.outcome layout reply = .ok record) ∧
      Gsm.outcome layout (card (card.after s earlier) last).1 = .error fault

/-- A session puts the blame right when its faults blame the reply just in case a command
was sent. -/
theorem SingleBlame.of_blames {r : Report σ (Except AuthFault α)} {sent : Bool}
    (hblames : Blames sent r.result) (hsent : sent = true ↔ r.commands ≠ [])
    (hone : ∀ a, r.result = .ok a → ∃ c, r.commands = [c]) : SingleBlame id r where
  reply_iff_sent fault h := by rw [hblames fault h, hsent]
  challenge_iff_unsent fault h := by
    rw [hblames fault h, ← Bool.not_eq_true, hsent, Decidable.not_not]
  one_command := hone

theorem Umts.singleBlame_authenticate (card : Card σ) (challenges : List String) (s : σ) :
    SingleBlame id ((authenticate card challenges).report s) := by
  cases hencode : encodeChallenge challenges with
  | error fault =>
    have hblame := blames_encodeChallenge challenges fault hencode
    rw [report_authenticate_refused card s hencode]
    exact .of_blames (.error hblame) (by simp) fun a ha => by cases ha
  | ok data =>
    rw [report_authenticate_sent card s hencode]
    exact .of_blames (blames_outcome _) (by simp) fun _ _ => ⟨command data, rfl⟩

theorem Gsm.exchange_error (card : Card σ) (layout : GsmLayout) {s : σ}
    {commands : List Command} {fault : AuthFault}
    (h : (exchange card layout s commands).result = .error fault) :
    ∃ (earlier : List Command) (last : Command),
      (exchange card layout s commands).commands = earlier ++ [last] ∧
      (∀ reply ∈ card.replies s earlier, ∃ record, outcome layout reply = .ok record) ∧
      outcome layout (card (card.after s earlier) last).1 = .error fault := by
  induction commands generalizing s with
  | nil => cases h
  | cons c rest ih =>
    rw [exchange] at h ⊢
    cases houtcome : outcome layout (card s c).1 with
    | error e =>
      rw [houtcome] at h
      cases h
      exact ⟨[], c, rfl, by simp [Card.replies], houtcome⟩
    | ok record =>
      -- This reply is usable, so the fault is one of the rest, from the state it leaves.
      rw [houtcome] at h
      cases htail : (exchange card layout (card s c).2 rest).result with
      | ok records => simp [htail, Except.map] at h
      | error e =>
        have he : e = fault := by simpa [htail, Except.map] using h
        obtain ⟨earlier, last, hcommands, husable, hfault⟩ := ih (he ▸ htail)
        refine ⟨c :: earlier, last, by simp [hcommands], ?_, hfault⟩
        rw [Card.replies, List.forall_mem_cons]
        exact ⟨⟨record, houtcome⟩, husable⟩

theorem Gsm.batchBlame_authenticate (card : Card σ) (layout : GsmLayout) (app : CardApp)
    (challenges : List String) (s : σ) :
    BatchBlame card layout s id ((authenticate card layout app challenges).report s) := by
  rw [authenticate, report_answerFrom]
  refine ⟨fun fault h => ?_, fun fault h => exchange_error card layout h⟩
  obtain ⟨earlier, last, -, -, hfault⟩ := exchange_error card layout h
  exact blames_outcome layout _ fault hfault

end CarrierAuth
