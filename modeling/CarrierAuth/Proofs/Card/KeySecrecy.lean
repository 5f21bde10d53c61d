import CarrierAuth.Proofs.Card.Log
import CarrierAuth.Proofs.Card.ReplyGrammar
import Mathlib.Data.List.Forall2

/-
  Key material and the log — the octets of a card's replies show at `trace` only.

  A reply that is decoded is seen through its shape: the kind of answer, the lengths of
  its fields and the number of octets left over. Two sessions whose replies have the
  same shapes, command by command, log the same at `debug` and above. So SRES, Kc, RES,
  CK, IK and AUTS leave no trace there, however long the batch.

  What is proved:
    1. `Gsm.mark_of_hasShape`, `Umts.mark_of_hasShape` — the mark of a decoded reply
       follows from its shape.
    2. `Gsm.shown_answerFrom_congr` — two batches over cards whose replies have the same
       shapes go on together and log the same.
    3. `keys_show_at_trace_only` — the same for every batch and every UMTS challenge.
-/
namespace CarrierAuth

variable {σ τ : Type}

/-! ## Shapes of GSM replies -/

namespace Gsm

/-- Whether a reply is decoded to fields of these lengths, with so many octets left
over. -/
def HasShape (layout : GsmLayout) (sres kc trailing : Nat) (reply : Option String) : Prop :=
  ∃ data record rest, replyOctets reply = .ok data ∧ read layout data = .ok (record, rest) ∧
    record.sres.length = sres ∧ record.kc.length = kc ∧ rest.length = trailing

def SameShape (layout : GsmLayout) (reply reply' : Option String) : Prop :=
  ∃ sres kc trailing,
    HasShape layout sres kc trailing reply ∧ HasShape layout sres kc trailing reply'

def replyLength : GsmLayout → Nat → Nat → Nat → Nat
  | .counted, sres, kc, trailing => (1 + sres) + (1 + kc) + trailing
  | .fixed, sres, kc, trailing => sres + kc + trailing

theorem length_of_read {layout : GsmLayout} {data rest : Octets} {record : GsmRecord}
    (h : read layout data = .ok (record, rest)) :
    data.length = replyLength layout record.sres.length record.kc.length rest.length := by
  cases layout with
  | counted =>
    obtain ⟨-, -, -, hdata⟩ := readCounted_eq_ok_iff.mp h
    rw [hdata]
    simp only [Field.encode, List.length_append, List.length_cons, replyLength]
    omega
  | fixed =>
    obtain ⟨found, hfound, hpair⟩ := Outcome.map_eq_ok_iff.mp h
    obtain ⟨rfl, rfl⟩ := Prod.mk.inj hpair
    rw [readFixed] at hfound
    split at hfound
    · rename_i hlength
      cases hfound
      have hbound : sresLength ≤ data.length := by omega
      simp only [replyLength, List.length_take, List.length_drop, List.length_nil]
      omega
    · contradiction

theorem mark_of_hasShape {layout : GsmLayout} {sres kc trailing : Nat} {reply : Option String}
    (h : HasShape layout sres kc trailing reply) :
    ReplyMark.of (read layout) reply =
      .decoded (replyLength layout sres kc trailing) trailing := by
  obtain ⟨data, record, rest, hdata, hread, rfl, rfl, rfl⟩ := h
  rw [ReplyMark.of_decoded hdata hread, length_of_read hread]

theorem outcome_of_hasShape {layout : GsmLayout} {sres kc trailing : Nat}
    {reply : Option String} (h : HasShape layout sres kc trailing reply) :
    ∃ record, outcome layout reply = .ok record := by
  obtain ⟨data, record, rest, hdata, hread, -⟩ := h
  refine ⟨record, ?_⟩
  rw [← readReply_value layout .sim 0, readReply_eq, ReplyWording.readReply, hdata]
  simp only [hread]
  cases rest <;> rfl

/-! ## Batches in step -/

theorem commands_answerFrom_skip (card : Card σ) (layout : GsmLayout) (app : CardApp)
    (index : Nat) {text : String} (rest : List String) (s : σ) (h : ¬ IsChallenge text) :
    (answerFrom card layout app index (text :: rest)).commands s =
      (answerFrom card layout app (index + 1) rest).commands s :=
  congrArg Session.Report.commands (report_answerFrom_skip card layout app index rest s h)

theorem commands_answerFrom_challenge (card : Card σ) (layout : GsmLayout) (app : CardApp)
    (index : Nat) {text : String} (rest : List String) (s : σ) (h : IsChallenge text) :
    (answerFrom card layout app index (text :: rest)).commands s =
      let (reply, s') := card s (challengeCommand layout app text)
      challengeCommand layout app text ::
        match outcome layout reply with
        | .error _ => []
        | .ok _ => (answerFrom card layout app (index + 1) rest).commands s' := by
  have hreport := congrArg Session.Report.commands
    (report_answerFrom_challenge card layout app index rest s h)
  refine hreport.trans ?_
  simp only
  cases outcome layout (card s (challengeCommand layout app text)).1 <;> rfl

theorem shown_answerFrom_congr (card : Card σ) (card' : Card τ) (layout : GsmLayout)
    (app : CardApp) (texts : List String) (index : Nat) (s : σ) (s' : τ)
    (h : List.Forall₂ (SameShape layout)
      (card.replies s ((answerFrom card layout app index texts).commands s))
      (card'.replies s' ((answerFrom card' layout app index texts).commands s'))) :
    Session.shown (answerFrom card layout app index texts) s =
      Session.shown (answerFrom card' layout app index texts) s' := by
  -- A reply with a shape can be used, so both batches send the same number of commands.
  induction texts generalizing index s s' with
  | nil => rfl
  | cons text rest ih =>
    by_cases htext : IsChallenge text
    · rw [commands_answerFrom_challenge _ _ _ _ _ _ htext,
        commands_answerFrom_challenge _ _ _ _ _ _ htext] at h
      simp only [Card.replies, List.forall₂_cons] at h
      obtain ⟨⟨sres, kc, trailing, hshape, hshape'⟩, htail⟩ := h
      obtain ⟨record, hrecord⟩ := outcome_of_hasShape hshape
      obtain ⟨record', hrecord'⟩ := outcome_of_hasShape hshape'
      simp only [hrecord, hrecord'] at htail
      rw [shown_answerFrom_challenge _ _ _ _ _ _ htext,
        shown_answerFrom_challenge _ _ _ _ _ _ htext]
      simp only [hrecord, hrecord', mark_of_hasShape hshape, mark_of_hasShape hshape',
        ih _ _ _ htail]
    · rw [commands_answerFrom_skip _ _ _ _ _ _ htext,
        commands_answerFrom_skip _ _ _ _ _ _ htext] at h
      rw [shown_answerFrom_skip _ _ _ _ _ _ htext, shown_answerFrom_skip _ _ _ _ _ _ htext,
        ih _ _ _ h]

end Gsm

/-! ## Shapes of UMTS replies -/

namespace Umts

/-- Whether a reply is decoded to an answer of this kind with fields of these lengths,
and so many octets left over. -/
def HasShape (tag : UmtsTag) (lengths : List Nat) (trailing : Nat) (reply : Option String) :
    Prop :=
  ∃ data result rest, replyOctets reply = .ok data ∧ readTagged data = .ok (result, rest) ∧
    result.tag = tag ∧ result.fields.map List.length = lengths ∧ rest.length = trailing

def SameShape (reply reply' : Option String) : Prop :=
  ∃ tag lengths trailing,
    HasShape tag lengths trailing reply ∧ HasShape tag lengths trailing reply'

/-- The number of octets of fields of these lengths, each behind its length. -/
def fieldsLength : List Nat → Nat
  | [] => 0
  | length :: rest => 1 + length + fieldsLength rest

def replyLength (lengths : List Nat) (trailing : Nat) : Nat :=
  1 + fieldsLength lengths + trailing

theorem length_fields (fields : List Octets) :
    (fields.flatMap Field.encode).length = fieldsLength (fields.map List.length) := by
  induction fields with
  | nil => rfl
  | cons field rest ih =>
    rw [List.flatMap_cons, List.length_append, ih, Field.encode, List.length_cons,
      List.map_cons, fieldsLength]
    omega

theorem mark_of_hasShape {tag : UmtsTag} {lengths : List Nat} {trailing : Nat}
    {reply : Option String} (h : HasShape tag lengths trailing reply) :
    ReplyMark.of readTagged reply = .decoded (replyLength lengths trailing) trailing := by
  obtain ⟨data, result, rest, hdata, hread, -, rfl, rfl⟩ := h
  have hlength : data.length = replyLength (result.fields.map List.length) rest.length := by
    obtain ⟨-, hencode⟩ := readTagged_eq_ok_iff.mp hread
    rw [hencode, List.length_append, UmtsResult.encode, List.length_cons, length_fields,
      replyLength]
    omega
  rw [ReplyMark.of_decoded hdata hread, hlength]

theorem shown_authenticate_congr (card : Card σ) (card' : Card τ) (challenges : List String)
    (s : σ) (s' : τ)
    (h : List.Forall₂ SameShape
      (card.replies s ((authenticate card challenges).commands s))
      (card'.replies s' ((authenticate card' challenges).commands s'))) :
    Session.shown (authenticate card challenges) s =
      Session.shown (authenticate card' challenges) s' := by
  cases hencode : encodeChallenge challenges with
  | error fault =>
    rw [shown_authenticate_refused card s hencode, shown_authenticate_refused card' s' hencode]
  | ok data =>
    have hcommands : (authenticate card challenges).commands s = [command data] :=
      congrArg Session.Report.commands (report_authenticate_sent card s hencode)
    have hcommands' : (authenticate card' challenges).commands s' = [command data] :=
      congrArg Session.Report.commands (report_authenticate_sent card' s' hencode)
    rw [hcommands, hcommands'] at h
    simp only [Card.replies, List.forall₂_cons] at h
    obtain ⟨⟨tag, lengths, trailing, hshape, hshape'⟩, -⟩ := h
    rw [shown_authenticate_sent card s hencode, shown_authenticate_sent card' s' hencode,
      mark_of_hasShape hshape, mark_of_hasShape hshape']

end Umts

/-! ## The log above `trace` -/

/-- Where the replies to two sessions are decoded, command by command, to fields of the
same lengths with as many octets left over (and, for UMTS, to the same kind of answer),
both sessions log the same events at `debug` and above. -/
theorem keys_show_at_trace_only (card : Card σ) (card' : Card τ) (s : σ) (s' : τ)
    (challenges : List String) :
    (∀ layout app,
      let run := Gsm.authenticate card layout app challenges
      let run' := Gsm.authenticate card' layout app challenges
      List.Forall₂ (Gsm.SameShape layout) (card.replies s (run.commands s))
          (card'.replies s' (run'.commands s')) →
        eventsFrom .debug (run.events s) = eventsFrom .debug (run'.events s')) ∧
    (let run := Umts.authenticate card challenges
      let run' := Umts.authenticate card' challenges
      List.Forall₂ Umts.SameShape (card.replies s (run.commands s))
          (card'.replies s' (run'.commands s')) →
        eventsFrom .debug (run.events s) = eventsFrom .debug (run'.events s')) := by
  refine ⟨fun layout app => ?_, ?_⟩
  · intro run run' h
    exact Gsm.shown_answerFrom_congr card card' layout app challenges 0 s s' h
  · intro run run' h
    exact Umts.shown_authenticate_congr card card' challenges s s' h

/-- Two cards with different keys, an octet behind each reply: the answers differ, and so
do the logs at `trace`, but nothing above. -/
theorem keys_of_two_cards_show_at_trace_only :
    let card (key : UInt8) : Card Unit := fun _ c =>
      (some (Base64.encode (if c.algorithm = .eapSim then [1, key, 2, key, key, 0]
        else [0xdc, 2, key, key, 0])), ())
    let batch (key : UInt8) := Gsm.authenticate (card key) .counted .usim ["0a", "zz", "0b"]
    let single (key : UInt8) := Umts.authenticate (card key) ["0a", "0b"]
    ((batch 1).result () ≠ (batch 2).result () ∧
      (batch 1).events () ≠ (batch 2).events () ∧
      eventsFrom .debug ((batch 1).events ()) = eventsFrom .debug ((batch 2).events ())) ∧
    ((single 1).result () ≠ (single 2).result () ∧
      (single 1).events () ≠ (single 2).events () ∧
      eventsFrom .debug ((single 1).events ()) = eventsFrom .debug ((single 2).events ())) := by
  intro card batch single
  have hbatch (key : UInt8) (h : key = 1 ∨ key = 2) :
      Gsm.HasShape .counted 1 2 1 (some (Base64.encode [1, key, 2, key, key, 0])) := by
    obtain rfl | rfl := h
    · exact ⟨_, { sres := [1], kc := [1, 1] }, [0], rfl, rfl, rfl, rfl, rfl⟩
    · exact ⟨_, { sres := [2], kc := [2, 2] }, [0], rfl, rfl, rfl, rfl, rfl⟩
  have hsingle (key : UInt8) (h : key = 1 ∨ key = 2) :
      Umts.HasShape .syncFailure [2] 1 (some (Base64.encode [0xdc, 2, key, key, 0])) := by
    obtain rfl | rfl := h
    · exact ⟨_, .syncFailure [1, 1], [0], rfl, rfl, rfl, rfl, rfl⟩
    · exact ⟨_, .syncFailure [2, 2], [0], rfl, rfl, rfl, rfl, rfl⟩
  refine ⟨⟨by decide, by decide, ?_⟩, by decide, by decide, ?_⟩
  · apply (keys_show_at_trace_only (card 1) (card 2) () () ["0a", "zz", "0b"]).1
    have hreply := (⟨1, 2, 1, hbatch 1 (.inl rfl), hbatch 2 (.inr rfl)⟩ :
      Gsm.SameShape .counted _ _)
    exact .cons hreply (.cons hreply .nil)
  · apply (keys_show_at_trace_only (card 1) (card 2) () () ["0a", "0b"]).2
    exact .cons ⟨.syncFailure, [2], 1, hsingle 1 (.inl rfl), hsingle 2 (.inr rfl)⟩ .nil

end CarrierAuth
