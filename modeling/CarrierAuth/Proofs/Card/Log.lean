import CarrierAuth.Proofs.Card.UmtsChallenge

/-
  The log of a session with the card — what of challenges and replies shows at `debug`
  and above.

  Of a message to or from the card only its length shows. Of a reply there show
  besides: why it cannot be used or, when it can, how many octets were left over. That
  is its mark (`ReplyMark`); nothing else of a reply reaches these levels.

  What is proved:
    1. `ReplyWording.shown_readReply` — what a reply leaves in the log is its mark, in the
       wording of the algorithm; both algorithms read replies the way it speaks of
       (`Gsm.readReply_eq`, `Umts.readReply_eq`).
    2. `Gsm.shown_answerFrom_skip`, `Gsm.shown_answerFrom_challenge` — the log of a
       batch, one text at a time.
    3. `Umts.shown_authenticate_refused`, `Umts.shown_authenticate_sent` — the log of a
       UMTS challenge.
-/
namespace CarrierAuth

variable {σ α : Type}

/-- What a session logs at `debug` or above. -/
def Session.shown (x : Session σ α) (s : σ) : List Event := eventsFrom .debug (events x s)

/-- The event by which a message to or from the card shows at `debug`: its length. -/
def lengthEvent (direction : Direction) (kind : String) (length : Nat) : Event :=
  { origin := .exchange, level := .debug
    message := direction.name ++ " " ++ kind ++ " payload"
    fields := [("direction", .shown direction.name), ("kind", .text kind),
      ("len", .number length)] }

theorem eventsFrom_exchangeEvents (direction : Direction) (kind : String) (data : Octets) :
    eventsFrom .debug (exchangeEvents direction kind data) =
      [lengthEvent direction kind data.length] := rfl

/-! ## Replies -/

/-- The wording of the log about the replies of one algorithm: warnings for those that
cannot be used, and a `debug` event for octets left over. -/
structure ReplyWording where
  kind : String
  unread : AuthFault → Event
  undecoded : AuthFault → Event
  trailing : Nat → Event
  level_unread : ∀ fault, (unread fault).level = .warn := by intro _; rfl
  level_undecoded : ∀ fault, (undecoded fault).level = .warn := by intro _; rfl
  level_trailing : ∀ count, (trailing count).level = .debug := by intro _; rfl

/-- What a reply shows at `debug` or above. -/
inductive ReplyMark where
  /-- No octets can be read, and why. -/
  | unread (fault : AuthFault)
  /-- So many octets were read but not decoded, and why. -/
  | undecoded (length : Nat) (fault : AuthFault)
  /-- So many octets were decoded, and so many of them were left over. -/
  | decoded (length trailing : Nat)
  deriving DecidableEq

/-- The mark of a reply whose octets `read` takes apart. -/
def ReplyMark.of (read : Octets → Except AuthFault (α × Octets)) (reply : Option String) :
    ReplyMark :=
  match replyOctets reply with
  | .error fault => .unread fault
  | .ok data =>
    match read data with
    | .error fault => .undecoded data.length fault
    | .ok (_, rest) => .decoded data.length rest.length

theorem ReplyMark.of_decoded {read : Octets → Except AuthFault (α × Octets)}
    {reply : Option String} {data rest : Octets} {a : α} (hdata : replyOctets reply = .ok data)
    (hread : read data = .ok (a, rest)) :
    ReplyMark.of read reply = .decoded data.length rest.length := by
  rw [ReplyMark.of, hdata]
  simp only [hread]

namespace ReplyWording

def log (w : ReplyWording) : ReplyMark → List Event
  | .unread fault => [w.unread fault]
  | .undecoded length fault => [lengthEvent .fromCard w.kind length, w.undecoded fault]
  | .decoded length trailing =>
    lengthEvent .fromCard w.kind length :: if trailing = 0 then [] else [w.trailing trailing]

/-- Reads a reply: its octets, then what `read` finds in them. Both algorithms read their
replies this way. -/
def readReply (w : ReplyWording) (read : Octets → Except AuthFault (α × Octets))
    (reply : Option String) : Traced (Except AuthFault α) :=
  match replyOctets reply with
  | .error fault => do
    Traced.log [w.unread fault]
    return .error fault
  | .ok data => do
    Traced.log (exchangeEvents .fromCard w.kind data)
    match read data with
    | .error fault =>
      Traced.log [w.undecoded fault]
      return .error fault
    | .ok (a, rest) =>
      unless rest.isEmpty do Traced.log [w.trailing rest.length]
      return .ok a

theorem shown_readReply (w : ReplyWording) (read : Octets → Except AuthFault (α × Octets))
    (reply : Option String) :
    eventsFrom .debug (w.readReply read reply).events = w.log (.of read reply) := by
  have hwarn {e : Event} (h : e.level = .warn) : eventsFrom .debug [e] = [e] := by
    simp [eventsFrom, h, Level.severity]
  have hdebug {e : Event} (h : e.level = .debug) : eventsFrom .debug [e] = [e] := by
    simp [eventsFrom, h, Level.severity]
  rw [readReply, ReplyMark.of]
  cases replyOctets reply with
  | error fault =>
    simp only [Traced.events_bind, Traced.events_log, Traced.events_pure, List.append_nil]
    exact hwarn (w.level_unread fault)
  | ok data =>
    simp only [Traced.events_bind, Traced.events_log, eventsFrom_append,
      eventsFrom_exchangeEvents]
    cases read data with
    | error fault =>
      simp only [Traced.events_bind, Traced.events_log, Traced.events_pure, List.append_nil,
        hwarn (w.level_undecoded fault)]
      rfl
    | ok p =>
      obtain ⟨a, rest⟩ := p
      cases rest with
      | nil => rfl
      | cons b rest =>
        simp only [List.isEmpty_cons, Bool.false_eq_true, if_false, Traced.events_bind,
          Traced.events_log, Traced.events_pure, List.append_nil, hdebug (w.level_trailing _)]
        rfl

end ReplyWording

/-! ## GSM -/

namespace Gsm

/-- The wording about the reply to the challenge at `index`. -/
def wording (app : CardApp) (index : Nat) : ReplyWording where
  kind := "GSM response"
  unread := failedEvent "GSM authentication failed" app index
  undecoded := failedEvent "Invalid GSM response" app index
  trailing := trailingEvent

/-- Reads the octets of a reply: the record in them, and what is left over. -/
def read : GsmLayout → Octets → Except AuthFault (GsmRecord × Octets)
  | .counted, data => readCounted data
  | .fixed, data => (readFixed data).map (·, [])

theorem readReply_eq (layout : GsmLayout) (app : CardApp) (index : Nat) (reply : Option String) :
    readReply layout app index reply = (wording app index).readReply (read layout) reply := by
  rw [readReply, ReplyWording.readReply]
  cases replyOctets reply with
  | error fault => rfl
  | ok data =>
    cases layout with
    | fixed =>
      simp only [decode, read]
      cases readFixed data <;> rfl
    | counted =>
      simp only [decode, read, decodeCounted]
      cases readCounted data with
      | error fault => rfl
      | ok p =>
        obtain ⟨record, rest⟩ := p
        cases rest <;> rfl

theorem shown_readReply (layout : GsmLayout) (app : CardApp) (index : Nat)
    (reply : Option String) :
    eventsFrom .debug (readReply layout app index reply).events =
      (wording app index).log (.of (read layout) reply) := by
  rw [readReply_eq]
  exact ReplyWording.shown_readReply _ _ reply

/-- What a text that is no challenge leaves in the log: nothing, if it is blank. -/
def skippedLog (layout : GsmLayout) (index : Nat) (text : String) : List Event :=
  if Text.isBlank text then []
  else match encodeChallenge layout text with
    | .error fault => [skippedEvent index fault]
    | .ok _ => []

theorem shown_answerFrom_skip (card : Card σ) (layout : GsmLayout) (app : CardApp)
    (index : Nat) {text : String} (rest : List String) (s : σ) (h : ¬ IsChallenge text) :
    Session.shown (answerFrom card layout app index (text :: rest)) s =
      skippedLog layout index text ++
        Session.shown (answerFrom card layout app (index + 1) rest) s := by
  rw [answerFrom, skippedLog]
  by_cases hblank : Text.isBlank text = true
  · rw [if_pos hblank, if_pos hblank, List.nil_append]
  · rw [if_neg hblank, if_neg hblank]
    cases hencode : encodeChallenge layout text with
    | error fault =>
      simp only [Session.shown, Session.events_bind, Session.events_log,
        Session.finalState_log, eventsFrom_append]
      rfl
    | ok data => exact absurd (isChallenge_of_encode hblank hencode) h

/-- The log goes on behind the mark of the reply when the reply can be used. -/
theorem shown_answerFrom_challenge (card : Card σ) (layout : GsmLayout) (app : CardApp)
    (index : Nat) {text : String} (rest : List String) (s : σ) (h : IsChallenge text) :
    Session.shown (answerFrom card layout app index (text :: rest)) s =
      let (reply, s') := card s (challengeCommand layout app text)
      lengthEvent .toCard "GSM RAND" (challengeOctets layout text).length ::
        ((wording app index).log (.of (read layout) reply) ++
          match outcome layout reply with
          | .error _ => []
          | .ok _ => Session.shown (answerFrom card layout app (index + 1) rest) s') := by
  have hblank : ¬ Text.isBlank text = true := by
    rw [isBlank_of_isChallenge h]
    exact Bool.false_ne_true
  rw [answerFrom, if_neg hblank, encodeChallenge_eq_ok_iff.mpr ⟨h.2, rfl⟩, challengeCommand]
  simp only [Session.shown, answer, Session.events_bind, Session.events_log,
    Session.events_ask, Session.events_offline, Session.result_bind, Session.result_ask,
    Session.result_offline, Session.finalState_bind, Session.finalState_log,
    Session.finalState_ask, Session.finalState_offline, eventsFrom_append,
    eventsFrom_exchangeEvents, shown_readReply, readReply_value, List.nil_append]
  rw [List.append_assoc]
  cases outcome layout (card s (command app (challengeOctets layout text))).1 with
  | error fault => rfl
  | ok record =>
    simp only [Session.events_bind, Session.events_pure, List.append_nil]
    rfl

end Gsm

/-! ## UMTS -/

namespace Umts

def wording : ReplyWording where
  kind := "UMTS response"
  unread := failedEvent "UMTS authentication failed"
  undecoded := failedEvent "Invalid UMTS response"
  trailing := trailingEvent

theorem readReply_eq (reply : Option String) :
    readReply reply = wording.readReply readTagged reply := by
  rw [readReply, ReplyWording.readReply]
  cases replyOctets reply with
  | error fault => rfl
  | ok data =>
    simp only [decode]
    cases readTagged data with
    | error fault => rfl
    | ok p =>
      obtain ⟨result, rest⟩ := p
      cases rest <;> rfl

theorem shown_readReply (reply : Option String) :
    eventsFrom .debug (readReply reply).events = wording.log (.of readTagged reply) := by
  rw [readReply_eq]
  exact ReplyWording.shown_readReply _ _ reply

theorem shown_authenticate_refused (card : Card σ) {challenges : List String} (s : σ)
    {fault : AuthFault} (h : encodeChallenge challenges = .error fault) :
    Session.shown (authenticate card challenges) s = [] := by
  rw [authenticate, h]
  rfl

theorem shown_authenticate_sent (card : Card σ) {challenges : List String} (s : σ)
    {data : Octets} (h : encodeChallenge challenges = .ok data) :
    Session.shown (authenticate card challenges) s =
      lengthEvent .toCard "UMTS RAND/AUTN" data.length ::
        wording.log (.of readTagged (card s (command data)).1) := by
  rw [authenticate, h]
  simp only [Session.shown, Session.events_bind, Session.events_log, Session.events_ask,
    Session.events_offline, Session.result_ask, Session.finalState_log, eventsFrom_append,
    eventsFrom_exchangeEvents, shown_readReply, List.nil_append]
  rfl

end Umts

end CarrierAuth
