import CarrierAuth.Card.Gsm
import CarrierAuth.Proofs.Octets.Hex

/-
  GSM batches — which commands a batch of challenges puts to the card, and what
  the card's replies make of the answer.

  The card is any state machine. A batch is compared with an `exchange`: commands
  put to the card one after the other until a reply cannot be used, with no
  challenges to leave out and no log.

  What is proved:
    1. `report_answerFrom` — the log apart, a batch is the exchange of the
       commands of its challenges (`wanted`). Blank and malformed challenges,
       their places and their number leave no mark.
    2. `exchange_cases` — an exchange either uses every reply, or ends with the
       command whose reply is the first that cannot be used.
    3. `authenticate_follows_replies` — both together, for either layout.
-/
namespace CarrierAuth

/-! ## Cards asked several times -/

namespace Card

def replies {σ : Type} (card : Card σ) : σ → List Command → List (Option String)
  | _, [] => []
  | s, c :: rest => (card s c).1 :: replies card (card s c).2 rest

def after {σ : Type} (card : Card σ) : σ → List Command → σ
  | s, [] => s
  | s, c :: rest => after card (card s c).2 rest

theorem after_append {σ : Type} (card : Card σ) (s : σ) (a b : List Command) :
    card.after s (a ++ b) = card.after (card.after s a) b := by
  induction a generalizing s with
  | nil => rfl
  | cons c rest ih => exact ih (card s c).2

end Card

namespace Session

/-- What a session shows apart from its log. -/
structure Report (σ α : Type) where
  result : α
  commands : List Command
  state : σ

def report {σ α : Type} (x : Session σ α) (s : σ) : Report σ α :=
  ⟨result x s, commands x s, finalState x s⟩

end Session

namespace Gsm

variable {σ : Type}

/-! ## Challenges -/

/-- Whether a text is a challenge that is put to the card. -/
def IsChallenge (text : String) : Prop := text ≠ "" ∧ Hex.WellFormed text

instance : DecidablePred IsChallenge := fun _ => inferInstanceAs (Decidable (_ ∧ _))

/-- The octets of a challenge in a layout: RAND, behind its count of octets or bare. -/
def challengeOctets : GsmLayout → String → Octets
  | .counted, text =>
    UInt8.ofNat (Hex.pairs text.toList).length :: Hex.pairs text.toList
  | .fixed, text => Hex.pairs text.toList

def challengeCommand (layout : GsmLayout) (app : CardApp) (text : String) : Command :=
  command app (challengeOctets layout text)

/-- The commands of a batch. -/
def wanted (layout : GsmLayout) (app : CardApp) (challenges : List String) : List Command :=
  (challenges.filter (IsChallenge ·)).map (challengeCommand layout app)

theorem encodeChallenge_eq_ok_iff {layout : GsmLayout} {text : String} {data : Octets} :
    encodeChallenge layout text = .ok data ↔
      Hex.WellFormed text ∧ data = challengeOctets layout text := by
  cases layout with
  | fixed =>
    rw [encodeChallenge, readHex, Outcome.mapError_eq_ok_iff, Hex.decode_eq_ok_iff]
    rfl
  | counted =>
    rw [encodeChallenge, readHexField, Outcome.mapError_eq_ok_iff, Hex.decodeCounted_eq_ok_iff]
    refine ⟨?_, ?_⟩
    · intro h
      obtain ⟨rand, hrand, rfl⟩ := h
      obtain ⟨hwell, rfl⟩ := Hex.decode_eq_ok_iff.mp hrand
      exact ⟨hwell, rfl⟩
    · intro h
      obtain ⟨hwell, rfl⟩ := h
      exact ⟨_, Hex.decode_eq_ok_iff.mpr ⟨hwell, rfl⟩, rfl⟩

/-- A challenge holds a digit, and no digit is white space. -/
theorem isBlank_of_isChallenge {text : String} (h : IsChallenge text) :
    Text.isBlank text = false := by
  obtain ⟨hne, -, hdigits⟩ := h
  cases hcs : text.toList with
  | nil =>
    rw [← String.ofList_toList (s := text), hcs] at hne
    exact absurd rfl hne
  | cons c cs =>
    have hc := Hex.isDigit_iff.mp (hdigits c (by rw [hcs]; exact List.mem_cons_self))
    have hblank : Text.isWhiteSpace c = false := by
      simp only [Text.isWhiteSpace, Bool.or_eq_false_iff, Bool.and_eq_false_iff,
        decide_eq_false_iff_not, beq_eq_false_iff_ne]
      omega
    rw [Text.isBlank, hcs, List.all_cons, hblank, Bool.false_and]

/-- A text that is not blank and can be encoded is a challenge. The empty text is even
and all digits, so only blankness keeps it out. -/
theorem isChallenge_of_encode {layout : GsmLayout} {text : String} {data : Octets}
    (hblank : ¬ Text.isBlank text = true) (h : encodeChallenge layout text = .ok data) :
    IsChallenge text := by
  refine ⟨?_, (encodeChallenge_eq_ok_iff.mp h).1⟩
  intro hnil
  rw [hnil] at hblank
  exact hblank rfl

/-! ## Exchanges -/

/-- What a reply comes to: the record in it, or why it cannot be used. -/
def outcome (layout : GsmLayout) (reply : Option String) : Except AuthFault GsmRecord := do
  let data ← replyOctets reply
  (decode layout data).value

/-- Puts commands to the card until a reply cannot be used. -/
def exchange (card : Card σ) (layout : GsmLayout) :
    σ → List Command → Session.Report σ (Except AuthFault (List GsmRecord))
  | s, [] => ⟨.ok [], [], s⟩
  | s, c :: rest =>
    match outcome layout (card s c).1 with
    | .error fault => ⟨.error fault, [c], (card s c).2⟩
    | .ok record =>
      let tail := exchange card layout (card s c).2 rest
      ⟨tail.result.map (record :: ·), c :: tail.commands, tail.state⟩

theorem readReply_value (layout : GsmLayout) (app : CardApp) (index : Nat)
    (reply : Option String) :
    (readReply layout app index reply).value = outcome layout reply := by
  rw [readReply, outcome]
  cases replyOctets reply with
  | error fault => rfl
  | ok data =>
    simp only [Traced.value_bind]
    show _ = (decode layout data).value
    cases hd : (decode layout data).value with
    | error fault => rfl
    | ok record => rfl

theorem commands_decode (layout : GsmLayout) (data : Octets) :
    (decode layout data).commands = [] := by
  cases layout with
  | fixed => rfl
  | counted =>
    rw [decode, decodeCounted]
    split
    · rfl
    · split <;> rfl

theorem commands_readReply (layout : GsmLayout) (app : CardApp) (index : Nat)
    (reply : Option String) : (readReply layout app index reply).commands = [] := by
  rw [readReply]
  cases replyOctets reply with
  | error fault => simp
  | ok data =>
    simp only [Traced.commands_bind, Traced.commands_log, commands_decode, List.nil_append]
    cases (decode layout data).value <;> simp

/-- One challenge is one command, and its reply decides. -/
theorem report_answer (card : Card σ) (layout : GsmLayout) (app : CardApp) (index : Nat)
    (data : Octets) (s : σ) :
    Session.report (answer card layout app index data) s =
      ⟨outcome layout (card s (command app data)).1, [command app data],
        (card s (command app data)).2⟩ := by
  simp [Session.report, answer, readReply_value, commands_readReply]

theorem report_answerFrom_skip (card : Card σ) (layout : GsmLayout) (app : CardApp)
    (index : Nat) {text : String} (rest : List String) (s : σ) (h : ¬ IsChallenge text) :
    Session.report (answerFrom card layout app index (text :: rest)) s =
      Session.report (answerFrom card layout app (index + 1) rest) s := by
  rw [answerFrom]
  by_cases hblank : Text.isBlank text = true
  · rw [if_pos hblank]
  · rw [if_neg hblank]
    cases he : encodeChallenge layout text with
    | error fault => simp [Session.report]
    | ok data => exact absurd (isChallenge_of_encode hblank he) h

/-- A challenge is one command; its reply ends the batch or leads to the rest. -/
theorem report_answerFrom_challenge (card : Card σ) (layout : GsmLayout) (app : CardApp)
    (index : Nat) {text : String} (rest : List String) (s : σ) (h : IsChallenge text) :
    Session.report (answerFrom card layout app index (text :: rest)) s =
      match outcome layout (card s (challengeCommand layout app text)).1 with
      | .error fault =>
        ⟨.error fault, [challengeCommand layout app text],
          (card s (challengeCommand layout app text)).2⟩
      | .ok record =>
        let tail := Session.report (answerFrom card layout app (index + 1) rest)
          (card s (challengeCommand layout app text)).2
        ⟨tail.result.map (record :: ·), challengeCommand layout app text :: tail.commands,
          tail.state⟩ := by
  have hblank : ¬ Text.isBlank text = true := by
    rw [isBlank_of_isChallenge h]
    exact Bool.false_ne_true
  have hstep := report_answer card layout app index (challengeOctets layout text) s
  simp only [Session.report, Session.Report.mk.injEq] at hstep
  obtain ⟨hresult, hcommands, hstate⟩ := hstep
  rw [answerFrom, if_neg hblank, encodeChallenge_eq_ok_iff.mpr ⟨h.2, rfl⟩, challengeCommand]
  simp only [Session.report, Session.result_bind, Session.commands_bind,
    Session.finalState_bind, hresult, hcommands, hstate]
  cases outcome layout (card s (command app (challengeOctets layout text))).1 with
  | error fault => rfl
  | ok record => simp

theorem report_answerFrom (card : Card σ) (layout : GsmLayout) (app : CardApp) (index : Nat)
    (challenges : List String) (s : σ) :
    Session.report (answerFrom card layout app index challenges) s =
      exchange card layout s (wanted layout app challenges) := by
  induction challenges generalizing index s with
  | nil => rfl
  | cons text rest ih =>
    by_cases h : IsChallenge text
    · have hwanted : wanted layout app (text :: rest) =
          challengeCommand layout app text :: wanted layout app rest := by
        simp [wanted, h]
      rw [report_answerFrom_challenge card layout app index rest s h, hwanted, exchange]
      simp only [ih]
    · have hwanted : wanted layout app (text :: rest) = wanted layout app rest := by
        simp [wanted, h]
      rw [report_answerFrom_skip card layout app index rest s h, hwanted, ih]

/-- The ways an exchange can end: every reply was used, or the `n`-th is the first
that could not be. -/
theorem exchange_cases (card : Card σ) (layout : GsmLayout) (s : σ) (commands : List Command) :
    (∃ records : List GsmRecord,
      (card.replies s commands).map (outcome layout) = records.map .ok ∧
      exchange card layout s commands = ⟨.ok records, commands, card.after s commands⟩) ∨
    (∃ (n : Nat) (records : List GsmRecord) (fault : AuthFault),
      ((card.replies s commands).map (outcome layout)).take n = records.map .ok ∧
      ((card.replies s commands).map (outcome layout))[n]? = some (.error fault) ∧
      exchange card layout s commands =
        ⟨.error fault, commands.take (n + 1), card.after s (commands.take (n + 1))⟩) := by
  induction commands generalizing s with
  | nil => exact Or.inl ⟨[], rfl, rfl⟩
  | cons c rest ih =>
    rw [exchange, Card.replies, List.map_cons]
    cases houtcome : outcome layout (card s c).1 with
    | error fault =>
      -- The command that brought the useless reply has been put to the card.
      exact Or.inr ⟨0, [], fault, rfl, rfl, rfl⟩
    | ok record =>
      rcases ih (card s c).2 with
        ⟨records, hreplies, htail⟩ | ⟨n, records, fault, hused, hfault, htail⟩
      · refine Or.inl ⟨record :: records, by rw [hreplies, List.map_cons], ?_⟩
        simp only [htail]
        rfl
      · refine Or.inr ⟨n + 1, record :: records, fault, ?_, ?_, ?_⟩
        · rw [List.take_succ_cons, hused, List.map_cons]
        · rw [List.getElem?_cons_succ, hfault]
        · simp only [htail]
          rfl

/-- A batch puts the commands of its challenges to the card, in order and each
once, up to the first reply that cannot be used; texts that are no challenge
change nothing but the log. -/
theorem authenticate_follows_replies (card : Card σ) (layout : GsmLayout) (app : CardApp)
    (challenges : List String) (s : σ) :
    let run := authenticate card layout app challenges
    let commands : List Command := (challenges.filter (IsChallenge ·)).map fun text =>
      ⟨app, .eapSim, Base64.encode (challengeOctets layout text)⟩
    let outcomes := (card.replies s commands).map (outcome layout)
    ((∃ records : List GsmRecord,
        outcomes = records.map .ok ∧
        run.commands s = commands ∧
        run.result s = .ok records ∧
        (run.result s).map renderRecords =
          .ok (String.join (records.map fun r =>
            ":" ++ Hex.encode r.kc ++ ":" ++ Hex.encode r.sres)) ∧
        run.finalState s = card.after s commands) ∨
      (∃ (n : Nat) (records : List GsmRecord) (fault : AuthFault),
        outcomes.take n = records.map .ok ∧
        outcomes[n]? = some (.error fault) ∧
        run.commands s = commands.take (n + 1) ∧
        run.result s = .error fault ∧
        run.finalState s = card.after s (commands.take (n + 1)))) ∧
    ∀ others : List String,
      others.filter (IsChallenge ·) = challenges.filter (IsChallenge ·) →
        (authenticate card layout app others).report s = run.report s := by
  intro run commands outcomes
  have hrun : run.report s = exchange card layout s commands :=
    report_answerFrom card layout app 0 challenges s
  refine ⟨?_, ?_⟩
  · rcases exchange_cases card layout s commands with
      ⟨records, hused, hend⟩ | ⟨n, records, fault, hused, hfault, hend⟩
    · rw [hend, Session.report, Session.Report.mk.injEq] at hrun
      obtain ⟨hresult, hcommands, hstate⟩ := hrun
      exact Or.inl ⟨records, hused, hcommands, hresult, by rw [hresult]; rfl, hstate⟩
    · rw [hend, Session.report, Session.Report.mk.injEq] at hrun
      obtain ⟨hresult, hcommands, hstate⟩ := hrun
      exact Or.inr ⟨n, records, fault, hused, hfault, hcommands, hresult, hstate⟩
  · intro others hsame
    rw [hrun]
    show Session.report (answerFrom card layout app 0 others) s = _
    rw [report_answerFrom, wanted, hsame]
    rfl

end Gsm

end CarrierAuth
