import CarrierAuth.Proofs.Card.Log
import CarrierAuth.Proofs.Text.Quoted
import Mathlib.Data.List.Forall2

/-
  Challenges and the log — what of the text of a challenge shows at `debug` and above.

  The raw octets of a challenge belong to `trace`. Two batches whose texts are of the
  same kind (of the same length, and both blank, both malformed or both challenges) over
  a card that always answers the same are compared at `debug` and above. Of a challenge
  only the length shows. A malformed text, however, stands in full in the warning that
  it is left out, because the fault of the codec quotes it: there the log gives it away.

  What is proved:
    1. `skippedEvent_inj` — the warning determines the text.
    2. `logsTell_answerFrom` — the logs of two such batches differ in these warnings only,
       and they do differ whenever the malformed texts do.
    3. `log_tells_malformed_texts_only`, and `padded_challenge_shows_above_trace` — the
       general statement, and two challenges padded with spaces that show it.
-/
namespace CarrierAuth.Gsm

variable {σ : Type}

/-! ## Kinds of text -/

/-- What a batch does with a text: it passes over it, it warns, or it asks the card. -/
inductive TextClass where
  | blank | malformed | challenge
  deriving DecidableEq, Repr

def TextClass.of (text : String) : TextClass :=
  if Text.isBlank text then .blank
  else if Hex.WellFormed text then .challenge
  else .malformed

structure SameKind (text text' : String) : Prop where
  length_eq : octetLength text = octetLength text'
  class_eq : TextClass.of text = TextClass.of text'

def malformed (texts : List String) : List String :=
  texts.filter (TextClass.of · = .malformed)

/-- The texts that a batch passes before it stops, where the card always answers with
`reply`: all of them, or those before the first challenge. -/
def passed (layout : GsmLayout) (reply : Option String) (texts : List String) : List String :=
  match outcome layout reply with
  | .ok _ => texts
  | .error _ => texts.takeWhile (TextClass.of · ≠ .challenge)

theorem textClass_eq_blank_iff {text : String} :
    TextClass.of text = .blank ↔ Text.isBlank text = true := by
  rw [TextClass.of]
  by_cases hblank : Text.isBlank text = true <;> by_cases hwell : Hex.WellFormed text <;>
    simp [hblank, hwell]

theorem textClass_eq_malformed_iff {text : String} :
    TextClass.of text = .malformed ↔ ¬ Text.isBlank text = true ∧ ¬ Hex.WellFormed text := by
  rw [TextClass.of]
  by_cases hblank : Text.isBlank text = true <;> by_cases hwell : Hex.WellFormed text <;>
    simp [hblank, hwell]

/-- The empty text is made of pairs of digits, but it is blank. -/
theorem textClass_eq_challenge_iff {text : String} :
    TextClass.of text = .challenge ↔ IsChallenge text := by
  refine ⟨?_, ?_⟩
  · intro h
    have hblank : ¬ Text.isBlank text = true := by
      rw [← textClass_eq_blank_iff, h]
      decide
    have hwell : Hex.WellFormed text := by
      apply Classical.not_not.mp
      intro hwell
      rw [textClass_eq_malformed_iff.mpr ⟨hblank, hwell⟩] at h
      contradiction
    refine ⟨?_, hwell⟩
    intro hempty
    rw [hempty] at hblank
    exact hblank rfl
  · intro h
    rw [TextClass.of, isBlank_of_isChallenge h, if_neg Bool.false_ne_true, if_pos h.2]

theorem length_challengeOctets (layout : GsmLayout) {text : String} (h : IsChallenge text) :
    (challengeOctets layout text).length =
      (match layout with | .counted => 1 | .fixed => 0) + octetLength text / 2 := by
  rw [Hex.octetLength_of_wellFormed h.2]
  cases layout with
  | counted => exact Nat.add_comm _ 1
  | fixed => exact (Nat.zero_add _).symm

/-! ## Warnings -/

/-- Both layouts refuse a malformed text for the same fault, which quotes it. -/
theorem encodeChallenge_of_malformed {text : String} (h : TextClass.of text = .malformed) :
    ∃ fault, ∀ layout, encodeChallenge layout text = .error (.hex text fault) := by
  obtain ⟨-, hwell⟩ := textClass_eq_malformed_iff.mp h
  cases hdecode : Hex.decode text with
  | ok data => exact absurd (Hex.decode_eq_ok_iff.mp hdecode).1 hwell
  | error fault =>
    refine ⟨fault, fun layout => ?_⟩
    cases layout with
    | counted =>
      rw [encodeChallenge, readHexField, Hex.decodeCounted, hdecode]
      rfl
    | fixed =>
      rw [encodeChallenge, readHex, hdecode]
      rfl

theorem skippedLog_of_blank (layout : GsmLayout) (index : Nat) {text : String}
    (h : TextClass.of text = .blank) : skippedLog layout index text = [] := by
  rw [skippedLog, if_pos (textClass_eq_blank_iff.mp h)]

theorem skippedLog_of_malformed {text : String} (h : TextClass.of text = .malformed) :
    ∃ fault, ∀ layout index,
      skippedLog layout index text = [skippedEvent index (.hex text fault)] := by
  obtain ⟨fault, hencode⟩ := encodeChallenge_of_malformed h
  refine ⟨fault, fun layout index => ?_⟩
  rw [skippedLog, if_neg (textClass_eq_malformed_iff.mp h).1, hencode]

theorem skippedEvent_inj {index : Nat} {text text' : String} {fault fault' : Hex.Fault}
    (h : skippedEvent index (.hex text fault) = skippedEvent index (.hex text' fault')) :
    text = text' := by
  have hmessage := congrArg Event.message h
  simp only [skippedEvent, CodecFault.message_hex, String.append_right_inj] at hmessage
  exact (Text.quote_append_inj hmessage).1

/-! ## Two logs -/

/-- Equal events, or warnings about malformed texts at the same place. -/
def SameButText (e e' : Event) : Prop :=
  e = e' ∨ ∃ index text text' fault fault',
    e = skippedEvent index (.hex text fault) ∧ e' = skippedEvent index (.hex text' fault')

/-- Whether two logs tell two lists of texts apart, and nothing else. -/
structure LogsTell (log log' : List Event) (texts texts' : List String) : Prop where
  alike : List.Forall₂ SameButText log log'
  eq_iff : log = log' ↔ texts = texts'

namespace LogsTell

theorem nil : LogsTell [] [] [] [] where
  alike := .nil
  eq_iff := ⟨fun _ => rfl, fun _ => rfl⟩

variable {log log' : List Event} {texts texts' : List String}

theorem append (events : List Event) (h : LogsTell log log' texts texts') :
    LogsTell (events ++ log) (events ++ log') texts texts' := by
  refine ⟨?_, ?_⟩
  · induction events with
    | nil => exact h.alike
    | cons e events ih => exact .cons (.inl rfl) ih
  · rw [List.append_cancel_left_eq]
    exact h.eq_iff

theorem leftOut (layout : GsmLayout) (index : Nat) {text text' : String}
    (hkind : SameKind text text') (hclass : TextClass.of text ≠ .challenge)
    (h : LogsTell log log' (malformed texts) (malformed texts')) :
    LogsTell (skippedLog layout index text ++ log) (skippedLog layout index text' ++ log')
      (malformed (text :: texts)) (malformed (text' :: texts')) := by
  rw [malformed, malformed]
  cases htext : TextClass.of text with
  | challenge => contradiction
  | blank =>
    have htext' := hkind.class_eq.symm.trans htext
    rw [skippedLog_of_blank _ _ htext, skippedLog_of_blank _ _ htext',
      List.filter_cons_of_neg (by simp [htext]), List.filter_cons_of_neg (by simp [htext'])]
    exact h
  | malformed =>
    have htext' := hkind.class_eq.symm.trans htext
    rw [List.filter_cons_of_pos (by simp [htext]), List.filter_cons_of_pos (by simp [htext'])]
    obtain ⟨fault, hlog⟩ := skippedLog_of_malformed htext
    obtain ⟨fault', hlog'⟩ := skippedLog_of_malformed htext'
    refine ⟨?_, ⟨?_, ?_⟩⟩
    · rw [hlog, hlog']
      exact .cons (.inr ⟨index, text, text', fault, fault', rfl, rfl⟩) h.alike
    · intro heq
      rw [hlog, hlog'] at heq
      obtain ⟨hevent, hrest⟩ := List.cons.inj heq
      exact List.cons_eq_cons.mpr ⟨skippedEvent_inj hevent, h.eq_iff.mp hrest⟩
    · intro heq
      obtain ⟨rfl, hrest⟩ := List.cons.inj heq
      rw [h.eq_iff.mpr hrest]

end LogsTell

/-! ## Batches -/

theorem passed_nil (layout : GsmLayout) (reply : Option String) : passed layout reply [] = [] := by
  rw [passed]
  cases outcome layout reply <;> rfl

theorem passed_cons (layout : GsmLayout) (reply : Option String) {text : String}
    (rest : List String) (h : TextClass.of text ≠ .challenge) :
    passed layout reply (text :: rest) = text :: passed layout reply rest := by
  rw [passed, passed]
  cases outcome layout reply with
  | ok record => rfl
  | error fault => exact List.takeWhile_cons_of_pos (decide_eq_true h)

/-- No challenge is malformed, and at the first one a batch stops when the reply cannot
be used. -/
theorem malformed_passed_challenge (layout : GsmLayout) (reply : Option String) {text : String}
    (rest : List String) (h : TextClass.of text = .challenge) :
    malformed (passed layout reply (text :: rest)) =
      match outcome layout reply with
      | .error _ => []
      | .ok _ => malformed (passed layout reply rest) := by
  simp only [passed]
  cases outcome layout reply with
  | ok record => exact List.filter_cons_of_neg (by simp [h])
  | error fault => simp [malformed, h]

theorem logsTell_answerFrom {card : Card σ} {reply : Option String}
    (hcard : ∀ s c, (card s c).1 = reply) (layout : GsmLayout) (app : CardApp)
    {texts texts' : List String} (h : List.Forall₂ SameKind texts texts') (index : Nat)
    (s s' : σ) :
    LogsTell (Session.shown (answerFrom card layout app index texts) s)
      (Session.shown (answerFrom card layout app index texts') s')
      (malformed (passed layout reply texts)) (malformed (passed layout reply texts')) := by
  -- The states part with the first challenges, but no reply depends on them.
  induction h generalizing index s s' with
  | nil =>
    rw [passed_nil]
    exact .nil
  | @cons text text' rest rest' hkind hrest ih =>
    by_cases hclass : TextClass.of text = .challenge
    · have hclass' : TextClass.of text' = .challenge := hkind.class_eq.symm.trans hclass
      have htext := textClass_eq_challenge_iff.mp hclass
      have htext' := textClass_eq_challenge_iff.mp hclass'
      rw [shown_answerFrom_challenge _ _ _ _ _ _ htext,
        shown_answerFrom_challenge _ _ _ _ _ _ htext', malformed_passed_challenge _ _ _ hclass,
        malformed_passed_challenge _ _ _ hclass']
      -- What shows of the challenge is its length, and the reply is the same.
      simp only [hcard, length_challengeOctets _ htext, length_challengeOctets _ htext',
        hkind.length_eq]
      apply LogsTell.append [_]
      apply LogsTell.append
      cases outcome layout reply with
      | error fault => exact .nil
      | ok record => exact ih (index + 1) _ _
    · have hclass' : TextClass.of text' ≠ .challenge := by rwa [← hkind.class_eq]
      rw [shown_answerFrom_skip _ _ _ _ _ _ (mt textClass_eq_challenge_iff.mpr hclass),
        shown_answerFrom_skip _ _ _ _ _ _ (mt textClass_eq_challenge_iff.mpr hclass'),
        passed_cons _ _ _ hclass, passed_cons _ _ _ hclass']
      exact (ih (index + 1) s s').leftOut layout index hkind hclass

/-- Two batches of texts of the same lengths and classes, over a card that always answers
the same, log the same at `debug` and above but for the warnings about malformed texts.
Each such warning gives its text away: the logs are equal exactly when the malformed texts
that the batches pass before they stop are equal. -/
theorem log_tells_malformed_texts_only {card : Card σ} {reply : Option String}
    (hcard : ∀ s c, (card s c).1 = reply) (layout : GsmLayout) (app : CardApp)
    {texts texts' : List String} (h : List.Forall₂ SameKind texts texts') (s : σ) :
    let log challenges := eventsFrom .debug ((authenticate card layout app challenges).events s)
    List.Forall₂ SameButText (log texts) (log texts') ∧
      (log texts = log texts' ↔
        malformed (passed layout reply texts) = malformed (passed layout reply texts')) := by
  intro log
  have htell := logsTell_answerFrom hcard layout app h 0 s s
  exact ⟨htell.alike, htell.eq_iff⟩

/-- Of a challenge before a malformed text nothing shows but its length; of the malformed
text everything does. -/
theorem log_tells_padded_text_after_challenge :
    let card : Card Unit := fun _ _ => (some (Base64.encode [1, 7, 2, 8, 9]), ())
    let log challenges :=
      eventsFrom .debug ((authenticate card .counted .usim challenges).events ())
    log ["0a0b", " 0102 "] = log ["0c0d", " 0102 "] ∧
      log ["0a0b", " 0102 "] ≠ log ["0c0d", " 0304 "] := by
  intro card log
  have hchallenge : SameKind "0a0b" "0c0d" := ⟨by decide, by decide⟩
  have hpadded : SameKind " 0102 " " 0304 " := ⟨by decide, by decide⟩
  refine ⟨?_, ?_⟩
  · apply (log_tells_malformed_texts_only (fun _ _ => rfl) .counted .usim
      (.cons hchallenge (.cons ⟨rfl, rfl⟩ .nil)) ()).2.mpr
    decide
  · apply mt (log_tells_malformed_texts_only (fun _ _ => rfl) .counted .usim
      (.cons hchallenge (.cons hpadded .nil)) ()).2.mp
    decide

/-- Two challenges padded with spaces, of one length and both malformed, do not leave the
same log above `trace`. -/
theorem padded_challenge_shows_above_trace :
    let card : Card Unit := fun _ _ => (none, ())
    let log text := eventsFrom .debug ((authenticate card .counted .usim [text]).events ())
    SameKind " 0102 " " 0304 " ∧ log " 0102 " ≠ log " 0304 " := by
  intro card log
  have hpadded : SameKind " 0102 " " 0304 " := ⟨by decide, by decide⟩
  have hcard : ∀ s c, (card s c).1 = none := fun _ _ => rfl
  refine ⟨hpadded, ?_⟩
  apply mt (logsTell_answerFrom hcard .counted .usim (.cons hpadded .nil) 0 () ()).eq_iff.mp
  decide

end CarrierAuth.Gsm
