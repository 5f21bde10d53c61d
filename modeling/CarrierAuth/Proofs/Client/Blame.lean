import CarrierAuth.Device
import CarrierAuth.Proofs.Card.Blame

/-
  Blame through the client — the client adds the subscription to a session with the
  card: it refuses an invalid one before the card is asked, and otherwise hands on the
  answer or the fault of the session, wrapped.

  What is proved:
    1. `report_umts`, `report_gsm` — on a valid subscription the client's report is the
       card's, with its faults wrapped.
    2. `report_perform_of_invalid` — on an invalid one no command is sent.
    3. `faults_blame_what_was_sent` — with and without the client, a fault blames the
       reply exactly when there was one.
-/
namespace CarrierAuth.Client

variable {σ α : Type}

open Session (Report)

/-! ## The client's reports -/

/-- A report as the client hands it on. -/
def wrapReport (r : Report σ (Except AuthFault α)) : Report σ (Except ClientFault α) :=
  ⟨r.result.mapError .auth, r.commands, r.state⟩

theorem report_umts {id : SubscriptionId} (hid : id.isValid = true) (provider : Provider σ)
    (request : AnswerRequest) (s : σ) :
    (umts provider id request).report s =
      wrapReport ((Umts.authenticate (provider.card id) request.data).report s) := by
  rw [umts, if_pos hid]
  simp only [wrapReport, Session.report, Session.result_bind, Session.commands_bind,
    Session.finalState_bind]
  cases (Umts.authenticate (provider.card id) request.data).result s with
  | error fault => simp [Outcome.mapError_error]
  | ok result => simp [Outcome.mapError_ok]

theorem report_gsm {id : SubscriptionId} (hid : id.isValid = true) (provider : Provider σ)
    (route : GsmRoute) (challenges : List String) (s : σ) :
    (gsm provider id route challenges).report s =
      wrapReport
        ((Gsm.authenticate (provider.card id) route.layout route.app challenges).report s) := by
  rw [gsm, if_pos hid]
  simp [wrapReport, Session.report]

theorem report_umts_of_invalid {id : SubscriptionId} (hid : ¬ id.isValid = true)
    (provider : Provider σ) (request : AnswerRequest) (s : σ) :
    (umts provider id request).report s = ⟨.error (.invalidSubscription id), [], s⟩ := by
  rw [umts, if_neg hid]
  rfl

theorem report_gsm_of_invalid {id : SubscriptionId} (hid : ¬ id.isValid = true)
    (provider : Provider σ) (route : GsmRoute) (challenges : List String) (s : σ) :
    (gsm provider id route challenges).report s = ⟨.error (.invalidSubscription id), [], s⟩ := by
  rw [gsm, if_neg hid]
  rfl

/-! ## Blame -/

theorem error_of_wrapReport {r : Report σ (Except AuthFault α)} {fault : AuthFault}
    (h : (wrapReport r).result = .error (.auth fault)) : r.result = .error fault := by
  rw [wrapReport] at h
  cases hresult : r.result with
  | ok a => simp [hresult, Outcome.mapError_ok] at h
  | error e =>
    simp only [hresult, Outcome.mapError_error, Except.error.injEq, ClientFault.auth.injEq] at h
    rw [h]

theorem singleBlame_wrapReport {r : Report σ (Except AuthFault α)} (h : SingleBlame id r) :
    SingleBlame ClientFault.auth (wrapReport r) := by
  refine ⟨fun fault hfault => h.reply_iff_sent fault (error_of_wrapReport hfault),
    fun fault hfault => h.challenge_iff_unsent fault (error_of_wrapReport hfault),
    fun a ha => ?_⟩
  exact h.one_command a (Outcome.mapError_eq_ok_iff.mp ha)

theorem batchBlame_wrapReport {card : Card σ} {layout : GsmLayout} {s : σ}
    {r : Report σ (Except AuthFault α)} (h : BatchBlame card layout s id r) :
    BatchBlame card layout s ClientFault.auth (wrapReport r) :=
  ⟨fun fault hfault => h.reply fault (error_of_wrapReport hfault),
    fun fault hfault => h.last_command fault (error_of_wrapReport hfault)⟩

theorem report_map_of_refused {x : Session σ (Except ClientFault α)} {s : σ}
    {fault : ClientFault} (f : α → Response) (h : x.report s = ⟨.error fault, [], s⟩) :
    Session.report (do return (← x).map f) s = ⟨.error fault, [], s⟩ := by
  simp only [Session.report, Report.mk.injEq] at h
  obtain ⟨hresult, hcommands, hstate⟩ := h
  simp [Session.report, hresult, hcommands, hstate, Except.map]

/-- On an invalid subscription every request is refused and sends no command, but for
pseudonyms that need no realm. -/
theorem report_perform_of_invalid (c : Client) {id : SubscriptionId}
    (hid : ¬ id.isValid = true) (provider : Provider σ) (request : Request) (s : σ)
    (hrealm : ∀ pseudonym, request = .decoratePseudonym pseudonym →
      pseudonym ≠ "" ∧ Identity.hasRealm pseudonym = false) :
    (c.perform provider id request).report s = ⟨.error (.invalidSubscription id), [], s⟩ := by
  have hsubscriber : subscriber provider id = .error (.invalidSubscription id) := if_neg hid
  cases request with
  | simIdentity network =>
    have hidentity : simIdentity c provider id network =
        pure (.error (.invalidSubscription id)) := by
      rw [simIdentity, hsubscriber]
    rw [perform, hidentity]
    rfl
  | anonymousIdentity network =>
    have hidentity : anonymousIdentity c provider id network =
        .error (.invalidSubscription id) := by
      rw [anonymousIdentity, hsubscriber]
      rfl
    rw [perform, hidentity]
    rfl
  | decoratePseudonym pseudonym =>
    obtain ⟨hne, hnone⟩ := hrealm pseudonym rfl
    have hdecorate : decoratePseudonym provider id pseudonym =
        .error (.invalidSubscription id) := by
      rw [decoratePseudonym, if_neg hne, if_neg (by rw [hnone]; exact Bool.false_ne_true),
        hsubscriber]
      rfl
    rw [perform, hdecorate]
    rfl
  | gsm route challenges =>
    exact report_map_of_refused _ (report_gsm_of_invalid hid provider route challenges s)
  | umts request =>
    exact report_map_of_refused _ (report_umts_of_invalid hid provider request s)

/-- Whatever the card does, a UMTS fault blames the reply exactly when a command was
sent, and the challenge exactly when none was, and an answer takes one command; a GSM
fault blames the reply to the last command that was sent. The same holds of the faults
that the client hands on, and on a negative subscription it sends no command. -/
theorem faults_blame_what_was_sent (c : Client) (provider : Provider σ) (id : SubscriptionId)
    (s : σ) :
    (∀ challenges, SingleBlame (fun fault => fault)
      ((Umts.authenticate (provider.card id) challenges).report s)) ∧
    (∀ layout app challenges, BatchBlame (provider.card id) layout s (fun fault => fault)
      ((Gsm.authenticate (provider.card id) layout app challenges).report s)) ∧
    (∀ request, SingleBlame .auth ((umts provider id request).report s)) ∧
    (∀ route challenges, BatchBlame (provider.card id) route.layout s .auth
      ((gsm provider id route challenges).report s)) ∧
    (id.value < 0 → ∀ request,
      (∀ pseudonym, request = .decoratePseudonym pseudonym →
        pseudonym ≠ "" ∧ Identity.hasRealm pseudonym = false) →
      (c.perform provider id request).report s = ⟨.error (.invalidSubscription id), [], s⟩) := by
  refine ⟨fun challenges => Umts.singleBlame_authenticate (provider.card id) challenges s,
    fun layout app challenges =>
      Gsm.batchBlame_authenticate (provider.card id) layout app challenges s,
    fun request => ?_, fun route challenges => ?_, fun hnegative request hrealm => ?_⟩
  · by_cases hid : id.isValid = true
    · rw [report_umts hid]
      exact singleBlame_wrapReport
        (Umts.singleBlame_authenticate (provider.card id) request.data s)
    · rw [report_umts_of_invalid hid]
      -- The subscription is refused, so no fault of the card is handed on.
      refine ⟨fun _ h => ?_, fun _ h => ?_, fun _ h => ?_⟩
      · cases h
      · cases h
      · cases h
  · by_cases hid : id.isValid = true
    · rw [report_gsm hid]
      exact batchBlame_wrapReport
        (Gsm.batchBlame_authenticate (provider.card id) route.layout route.app challenges s)
    · rw [report_gsm_of_invalid hid]
      refine ⟨fun _ h => ?_, fun _ h => ?_⟩
      · cases h
      · cases h
  · have hid : ¬ id.isValid = true := by
      rw [SubscriptionId.isValid_iff]
      omega
    exact report_perform_of_invalid c hid provider request s hrealm

/-- A card that answers once and then no more is to blame from its second reply on; on the
invalid subscription it is not asked at all. -/
theorem second_reply_is_to_blame :
    let card : Card Nat := fun n _ => (if n = 0 then some "ESIzRKq7zN3u/wAB" else none, n + 1)
    let provider : Provider Nat :=
      { subscriber := fun _ => none, key := fun _ => .ok none, card := fun _ => card }
    let id : SubscriptionId := { value := 7 }
    let session := gsm provider id .simFixed ["01", "02", "03"]
    session.result 0 = .error (.auth .missingReply) ∧
    AuthFault.missingReply.blamesReply = true ∧
    (∃ (earlier : List Command) (last : Command),
      session.commands 0 = earlier ++ [last] ∧
      (∀ reply ∈ card.replies 0 earlier, ∃ record, Gsm.outcome .fixed reply = .ok record) ∧
      Gsm.outcome .fixed (card (card.after 0 earlier) last).1 = .error .missingReply) ∧
    SubscriptionId.invalid.value < 0 ∧
    (({ cipher := .echo } : Client).perform provider .invalid
        (.gsm .simFixed ["01"])).report 0 = ⟨.error (.invalidSubscription .invalid), [], 0⟩ := by
  intro card provider id session
  have hresult : session.result 0 = .error (.auth .missingReply) := rfl
  have hnegative : SubscriptionId.invalid.value < 0 := by decide
  obtain ⟨-, -, -, hgsm, -⟩ := faults_blame_what_was_sent { cipher := .echo } provider id 0
  obtain ⟨hblame, hlast⟩ := hgsm .simFixed ["01", "02", "03"]
  obtain ⟨-, -, -, -, hinvalid⟩ :=
    faults_blame_what_was_sent { cipher := .echo } provider .invalid 0
  have hrefused := hinvalid hnegative (.gsm .simFixed ["01"]) (by simp)
  exact ⟨hresult, hblame _ hresult, hlast _ hresult, hnegative, hrefused⟩

end CarrierAuth.Client
