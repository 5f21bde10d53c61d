import CarrierAuth.Card.Script
import CarrierAuth.Device
import CarrierAuth.Proofs.Card.SameProgram
import CarrierAuth.Proofs.Client.Blame

/-
  Isolation of subscriptions — requests to a phone concern one subscription each, and
  however they are mixed, a subscription is served as if the phone had no other.

  A request runs on the cards of all subscriptions and is free to look up any of them, so
  that it keeps to its own has to be proved. On two phones that agree about its subscription
  a request is the same program on the two cards of the subscription, which leaves it no
  other card to ask. A mixed run is compared with the run of one subscription's requests on
  another phone, and each step keeps the two phones in agreement.

  What is proved:
    1. `Client.sameProgram_perform` — of the phone a request reads the data of its own
       subscription, of the settings what its own carrier asks for, and it puts its commands
       to its own card.
    2. `perform_own`, `perform_other` — on phones that agree about the subscription it gives
       the same response and leaves them in agreement; it leaves every other card alone.
    3. `answeredBy_gsm`, `answeredBy_umts` — challenges are answered by the card of the
       subscription, as if it were asked without a phone around it.
    4. `run_recording` — cards that keep a record of their commands change nothing about a
       run, and the record leads to the state in which the run leaves a card.
    5. `run_isolated` — the result for every mixture of requests.
-/
namespace CarrierAuth

variable {σ τ : Type}

open Session (SameProgram)

/-- Whether two clients treat a subscription alike: they share the cipher and what the
subscription's carrier asks for. -/
structure Client.AgreeAbout (c c' : Client) (s : SubscriptionId) : Prop where
  cipher : c.cipher = c'.cipher
  carrier : c.settings.carrier s = c'.settings.carrier s

/-- Whether two phones give the same data about a subscription. -/
structure Provider.AgreeAbout (provider : Provider σ) (provider' : Provider τ)
    (s : SubscriptionId) : Prop where
  subscriber : provider.subscriber s = provider'.subscriber s
  key : provider.key s = provider'.key s

/-- Whether two devices have the same line for a subscription, with the card in the same
state. -/
structure Device.AgreeAbout (d d' : Device σ) (s : SubscriptionId) : Prop where
  line : d.line s = d'.line s
  state : d.state s = d'.state s

/-! ## One request -/

namespace Client

section
variable {c c' : Client} {provider : Provider σ} {provider' : Provider τ} {s : SubscriptionId}

theorem withEncrypted_congr (h : c.AgreeAbout c' s) (key : Except String (Option CarrierKey))
    (method : EapMethod) (identity : String) :
    c.withEncrypted s key method identity = c'.withEncrypted s key method identity := by
  have hrequired : c.requiresEncryption s = c'.requiresEncryption s := by
    rw [requiresEncryption, requiresEncryption, h.carrier]
  match key with
  | .error reason => rfl
  | .ok none => rw [withEncrypted, withEncrypted, hrequired]
  | .ok (some key) => rw [withEncrypted, withEncrypted, h.cipher]

theorem subscriber_congr (h : provider.AgreeAbout provider' s) :
    subscriber provider s = subscriber provider' s := by
  rw [subscriber, subscriber, h.subscriber]

theorem simIdentity_congr (hclient : c.AgreeAbout c' s) (h : provider.AgreeAbout provider' s)
    (network : NetworkMethod) :
    c.simIdentity provider s network = c'.simIdentity provider' s network := by
  simp only [simIdentity, subscriber_congr h, h.key, withEncrypted_congr hclient]

theorem anonymousIdentity_congr (hclient : c.AgreeAbout c' s)
    (h : provider.AgreeAbout provider' s) (network : NetworkMethod) :
    c.anonymousIdentity provider s network = c'.anonymousIdentity provider' s network := by
  rw [anonymousIdentity, anonymousIdentity, subscriber_congr h, hclient.carrier]

theorem decoratePseudonym_congr (h : provider.AgreeAbout provider' s) (pseudonym : String) :
    decoratePseudonym provider s pseudonym = decoratePseudonym provider' s pseudonym := by
  rw [decoratePseudonym, decoratePseudonym, subscriber_congr h]

end

section
variable (provider : Provider σ) (provider' : Provider τ) (s : SubscriptionId)

theorem sameProgram_gsm (route : GsmRoute) (challenges : List String) :
    SameProgram (provider.card s) (provider'.card s) (gsm provider s route challenges)
      (gsm provider' s route challenges) := by
  rw [gsm, gsm]
  by_cases hs : s.isValid = true
  · rw [if_pos hs, if_pos hs]
    exact .bind (Gsm.sameProgram_authenticate _ _ _ _ _) fun _ => .pure _
  · rw [if_neg hs, if_neg hs]
    exact .pure _

theorem sameProgram_umts (request : AnswerRequest) :
    SameProgram (provider.card s) (provider'.card s) (umts provider s request)
      (umts provider' s request) := by
  rw [umts, umts]
  by_cases hs : s.isValid = true
  · rw [if_pos hs, if_pos hs]
    refine .bind (Umts.sameProgram_authenticate _ _ _) fun outcome => ?_
    cases outcome with
    | error fault => exact .pure _
    | ok result => exact .bind (.offline _) fun _ => .pure _
  · rw [if_neg hs, if_neg hs]
    exact .pure _

end

/-- All that a request reads and asks is about its own subscription. -/
theorem sameProgram_perform {c c' : Client} {provider : Provider σ} {provider' : Provider τ}
    {s : SubscriptionId} (hclient : c.AgreeAbout c' s) (h : provider.AgreeAbout provider' s)
    (request : Request) :
    SameProgram (provider.card s) (provider'.card s) (c.perform provider s request)
      (c'.perform provider' s request) := by
  cases request with
  | simIdentity network =>
    rw [perform, perform, simIdentity_congr hclient h]
    exact .bind (.offline _) fun _ => .pure _
  | anonymousIdentity network =>
    rw [perform, perform, anonymousIdentity_congr hclient h]
    exact .pure _
  | decoratePseudonym pseudonym =>
    rw [perform, perform, decoratePseudonym_congr h]
    exact .pure _
  | gsm route challenges =>
    exact .bind (sameProgram_gsm provider provider' s route challenges) fun _ => .pure _
  | umts request =>
    exact .bind (sameProgram_umts provider provider' s request) fun _ => .pure _

end Client

/-! ## One step of a device -/

namespace Device

/-- A command is answered by the card of its subscription, from the state of that card. -/
theorem reply_card (d : Device σ) (s : SubscriptionId) (states : SubscriptionId → σ)
    (command : Command) :
    (d.provider.card s states command).1 = ((d.line s).card (states s) command).1 := rfl

theorem card_self (d : Device σ) (s : SubscriptionId) (states : SubscriptionId → σ)
    (command : Command) :
    (d.provider.card s states command).2 s = ((d.line s).card (states s) command).2 :=
  if_pos rfl

theorem card_of_ne (d : Device σ) {s other : SubscriptionId} (h : other ≠ s)
    (states : SubscriptionId → σ) (command : Command) :
    (d.provider.card s states command).2 other = states other := if_neg h

theorem AgreeAbout.provider {d d' : Device σ} {s : SubscriptionId} (h : d.AgreeAbout d' s) :
    d.provider.AgreeAbout d'.provider s :=
  ⟨congrArg Line.subscriber h.line, congrArg Line.key h.line⟩

theorem AgreeAbout.trans {d d' d'' : Device σ} {s : SubscriptionId} (h : d.AgreeAbout d' s)
    (h' : d'.AgreeAbout d'' s) : d.AgreeAbout d'' s :=
  ⟨h.line.trans h'.line, h.state.trans h'.state⟩

theorem perform_trace (c : Client) (d : Device σ) (id : SubscriptionId) (request : Request) :
    (perform c d id request).trace =
      ((c.perform d.provider id request).run d.state).trace := by
  simp [perform]

/-- A request gives the same on devices that agree about its subscription, and leaves them in
agreement about it. -/
theorem perform_own {c c' : Client} {d d' : Device σ} {s : SubscriptionId}
    (hclient : c.AgreeAbout c' s) (hdevice : d.AgreeAbout d' s) (request : Request) :
    (perform c d s request).value.1 = (perform c' d' s request).value.1 ∧
      (perform c d s request).value.2.AgreeAbout (perform c' d' s request).value.2 s := by
  have hcards (states states' : SubscriptionId → σ) (command : Command)
      (h : states s = states' s) :
      (d.provider.card s states command).1 = (d'.provider.card s states' command).1 ∧
        (d.provider.card s states command).2 s = (d'.provider.card s states' command).2 s := by
    rw [reply_card, reply_card, card_self, card_self, hdevice.line, h]
    exact ⟨rfl, rfl⟩
  obtain ⟨hresponse, -, hstate⟩ :=
    (Client.sameProgram_perform hclient hdevice.provider request).simulates hcards hdevice.state
  exact ⟨hresponse, hdevice.line, hstate⟩

/-- A request leaves the card of every other subscription as it is. -/
theorem perform_other (c : Client) (d : Device σ) {id other : SubscriptionId}
    (h : other ≠ id) (request : Request) :
    (perform c d id request).value.2.AgreeAbout d other := by
  have hcard (states : SubscriptionId → σ) (command : Command)
      (hstate : states other = d.state other) :
      (d.provider.card id states command).2 other = d.state other := by
    rw [card_of_ne d h, hstate]
  have hprogram := Client.sameProgram_perform (⟨rfl, rfl⟩ : c.AgreeAbout c id)
    (⟨rfl, rfl⟩ : d.provider.AgreeAbout d.provider id) request
  exact ⟨rfl, hprogram.preserves (I := fun states => states other = d.state other) hcard rfl⟩

/-- Whether a step of a device from `d` is a session with the card of `s` alone, of which the
client hands on the value or the fault. -/
structure AnsweredBy {α : Type} (d : Device σ) (s : SubscriptionId)
    (session : Session σ (Except AuthFault α)) (response : α → Response)
    (step : Traced (Except ClientFault Response × Device σ)) : Prop where
  response_eq : step.value.1 = ((session.result (d.state s)).mapError .auth).map response
  commands_eq : step.commands = session.commands (d.state s)
  state_eq : step.value.2.state s = session.finalState (d.state s)

/-- A program on one card of a device is the program on that card. -/
theorem simulates_line {α : Type} (d : Device σ) (s : SubscriptionId)
    {x : Session (SubscriptionId → σ) α} {y : Session σ α}
    (h : SameProgram (d.provider.card s) (d.line s).card x y) :
    x.result d.state = y.result (d.state s) ∧ x.commands d.state = y.commands (d.state s) ∧
      x.finalState d.state s = y.finalState (d.state s) := by
  have hcards (states : SubscriptionId → σ) (t : σ) (command : Command) (hst : states s = t) :
      (d.provider.card s states command).1 = ((d.line s).card t command).1 ∧
        (d.provider.card s states command).2 s = ((d.line s).card t command).2 := by
    rw [reply_card, card_self, hst]
    exact ⟨rfl, rfl⟩
  obtain ⟨hresult, htrace, hstate⟩ := h.simulates hcards (rfl : d.state s = d.state s)
  exact ⟨hresult, congrArg (List.filterMap Act.command?) htrace, hstate⟩

theorem answeredBy_of_report {α : Type} {c : Client} {d : Device σ} {s : SubscriptionId}
    {request : Request} {response : α → Response}
    {x : Session (SubscriptionId → σ) (Except ClientFault α)}
    {y : Session (SubscriptionId → σ) (Except AuthFault α)}
    {session : Session σ (Except AuthFault α)}
    (hperform : c.perform d.provider s request = do return (← x).map response)
    (hreport : x.report d.state = Client.wrapReport (y.report d.state))
    (hprogram : SameProgram (d.provider.card s) (d.line s).card y session) :
    AnsweredBy d s session response (perform c d s request) := by
  obtain ⟨hresult, hcommands, hstate⟩ := simulates_line d s hprogram
  simp only [Session.report, Client.wrapReport, Session.Report.mk.injEq, hresult, hcommands]
    at hreport
  obtain ⟨hvalue, hsent, hfinal⟩ := hreport
  refine ⟨?_, ?_, ?_⟩
  · show (c.perform d.provider s request).result d.state = _
    rw [hperform, Session.result_bind, hvalue]
    rfl
  · show List.filterMap _ (perform c d s request).trace = _
    rw [perform_trace]
    show (c.perform d.provider s request).commands d.state = _
    rw [hperform, Session.commands_bind, hsent, Session.commands_pure, List.append_nil]
  · show (c.perform d.provider s request).finalState d.state s = _
    rw [hperform, Session.finalState_bind, Session.finalState_pure, hfinal, hstate]

/-- On a valid subscription a batch of GSM challenges is answered by its card. -/
theorem answeredBy_gsm (c : Client) (d : Device σ) {s : SubscriptionId} (hs : s.isValid = true)
    (route : GsmRoute) (challenges : List String) :
    AnsweredBy d s (Gsm.authenticate (d.line s).card route.layout route.app challenges) .records
      (perform c d s (.gsm route challenges)) :=
  answeredBy_of_report rfl (Client.report_gsm hs d.provider route challenges d.state)
    (Gsm.sameProgram_authenticate _ _ _ _ _)

theorem answeredBy_umts (c : Client) (d : Device σ) {s : SubscriptionId} (hs : s.isValid = true)
    (request : AnswerRequest) :
    AnsweredBy d s (Umts.authenticate (d.line s).card request.data) .umts
      (perform c d s (.umts request)) :=
  answeredBy_of_report rfl (Client.report_umts hs d.provider request d.state)
    (Umts.sameProgram_authenticate _ _ _)

/-! ## Mixed requests -/

theorem run_cons_value (c : Client) (d : Device σ) (id : SubscriptionId) (request : Request)
    (rest : List (SubscriptionId × Request)) :
    (run c d ((id, request) :: rest)).value =
      ((id, (perform c d id request).value.1) ::
          (run c (perform c d id request).value.2 rest).value.1,
        (run c (perform c d id request).value.2 rest).value.2) := rfl

theorem run_cons_trace (c : Client) (d : Device σ) (id : SubscriptionId) (request : Request)
    (rest : List (SubscriptionId × Request)) :
    (run c d ((id, request) :: rest)).trace =
      (perform c d id request).trace ++
        (run c (perform c d id request).value.2 rest).trace := by
  simp [run]

theorem map_fst_run (c : Client) (d : Device σ) (ops : List (SubscriptionId × Request)) :
    (run c d ops).value.1.map Prod.fst = ops.map Prod.fst := by
  induction ops generalizing d with
  | nil => rfl
  | cons op rest ih =>
    rw [run_cons_value, List.map_cons, List.map_cons, ih]

/-- One subscription in a mixed run on one device, and alone on another. -/
theorem run_filter {c c' : Client} {d d' : Device σ} {s : SubscriptionId}
    (hclient : c.AgreeAbout c' s) (hdevice : d.AgreeAbout d' s)
    (ops : List (SubscriptionId × Request)) :
    let mixed := (run c d ops).value
    let alone := (run c' d' (ops.filter (·.1 = s))).value
    mixed.1.filter (·.1 = s) = alone.1 ∧ mixed.2.AgreeAbout alone.2 s := by
  induction ops generalizing d d' with
  | nil => exact ⟨rfl, hdevice⟩
  | cons op rest ih =>
    obtain ⟨id, request⟩ := op
    by_cases h : id = s
    · subst h
      obtain ⟨hresponse, hagree⟩ := perform_own hclient hdevice request
      obtain ⟨hresponses, hfinal⟩ := ih hagree
      rw [List.filter_cons_of_pos (by simp), run_cons_value, run_cons_value]
      refine ⟨?_, hfinal⟩
      rw [List.filter_cons_of_pos (by simp), hresponse, hresponses]
    · -- The step belongs to another subscription, and the run alone does not take it.
      have hkept := perform_other c d (Ne.symm h) request
      obtain ⟨hresponses, hfinal⟩ := ih (hkept.trans hdevice)
      rw [List.filter_cons_of_neg (by simpa using h), run_cons_value]
      refine ⟨?_, hfinal⟩
      rw [List.filter_cons_of_neg (by simpa using h), hresponses]

theorem run_other (c : Client) (d : Device σ) {other : SubscriptionId}
    {ops : List (SubscriptionId × Request)} (h : ∀ op ∈ ops, other ≠ op.1) :
    (run c d ops).value.2.AgreeAbout d other := by
  induction ops generalizing d with
  | nil => exact ⟨rfl, rfl⟩
  | cons op rest ih =>
    obtain ⟨id, request⟩ := op
    obtain ⟨hother, hrest⟩ := List.forall_mem_cons.mp h
    exact (ih (perform c d id request).value.2 hrest).trans (perform_other c d hother request)

end Device

/-! ## Records -/

/-- The card that keeps the commands it receives, oldest first. -/
def Card.recording (card : Card σ) : Card (σ × List Command) := fun s c =>
  let (reply, t) := card s.1 c
  (reply, (t, s.2 ++ [c]))

def Line.recording (line : Line σ) : Line (σ × List Command) where
  subscriber := line.subscriber
  key := line.key
  card := line.card.recording

namespace Device

/-- The device whose cards keep the commands they receive. -/
def recording (d : Device σ) : Device (σ × List Command) where
  line id := (d.line id).recording
  state id := (d.state id, [])

/-- The commands that the card of a subscription receives. -/
def received (c : Client) (d : Device σ) (ops : List (SubscriptionId × Request))
    (id : SubscriptionId) : List Command :=
  ((run c d.recording ops).value.2.state id).2

theorem AgreeAbout.recording {d d' : Device σ} {s : SubscriptionId} (h : d.AgreeAbout d' s) :
    d.recording.AgreeAbout d'.recording s :=
  ⟨congrArg Line.recording h.line, congrArg (·, []) h.state⟩

/-- Whether two devices are what has become of `start` and of its recording: they are in the
same states, and the records lead there. -/
structure InStep (start d : Device σ) (d' : Device (σ × List Command)) : Prop where
  line : d.line = start.line
  line' : d'.line = start.recording.line
  state : ∀ id, (d'.state id).1 = d.state id
  record : ∀ id, (start.line id).card.after (start.state id) (d'.state id).2 = d.state id

theorem inStep_recording (d : Device σ) : InStep d d d.recording :=
  ⟨rfl, rfl, fun _ => rfl, fun _ => rfl⟩

theorem InStep.line_eq {start d : Device σ} {d' : Device (σ × List Command)}
    (h : InStep start d d') (id : SubscriptionId) : d'.line id = (d.line id).recording := by
  rw [h.line', h.line]
  rfl

/-- A command is answered alike with and without records, and is put on record. -/
theorem InStep.command {start d : Device σ} {d' : Device (σ × List Command)}
    (h : InStep start d d') (id : SubscriptionId) (command : Command) :
    let next := d.provider.card id d.state command
    let next' := d'.provider.card id d'.state command
    next.1 = next'.1 ∧ InStep start { d with state := next.2 } { d' with state := next'.2 } := by
  intro next next'
  have hreply : next'.1 = next.1 := by
    simp only [next, next', reply_card, h.line_eq, Line.recording, Card.recording, h.state]
  have hself : next'.2 id = (next.2 id, (d'.state id).2 ++ [command]) := by
    simp only [next, next', card_self, h.line_eq, Line.recording, Card.recording, h.state]
  have hothers {other : SubscriptionId} (hother : other ≠ id) :
      next'.2 other = d'.state other ∧ next.2 other = d.state other :=
    ⟨card_of_ne d' hother _ _, card_of_ne d hother _ _⟩
  have hstate (other : SubscriptionId) : (next'.2 other).1 = next.2 other := by
    by_cases hother : other = id
    · rw [hother, hself]
    · rw [(hothers hother).1, (hothers hother).2, h.state]
  have hrecord (other : SubscriptionId) :
      (start.line other).card.after (start.state other) (next'.2 other).2 = next.2 other := by
    by_cases hother : other = id
    · rw [hother, hself, Card.after_append, h.record, ← h.line]
      simp only [next, card_self, Card.after]
    · rw [(hothers hother).1, (hothers hother).2, h.record]
  exact ⟨hreply.symm, h.line, h.line', hstate, hrecord⟩

/-- So is a request, and its trace does not tell whether there are records. -/
theorem InStep.perform {start d : Device σ} {d' : Device (σ × List Command)}
    (h : InStep start d d') (c : Client) (id : SubscriptionId) (request : Request) :
    let step := Device.perform c d id request
    let step' := Device.perform c d' id request
    step.value.1 = step'.value.1 ∧ step.trace = step'.trace ∧
      InStep start step.value.2 step'.value.2 := by
  intro step step'
  have hline := h.line_eq id
  have hagree : d.provider.AgreeAbout d'.provider id :=
    ⟨(congrArg Line.subscriber hline).symm, (congrArg Line.key hline).symm⟩
  have hprogram := Client.sameProgram_perform (⟨rfl, rfl⟩ : c.AgreeAbout c id) hagree request
  have hcards (states : SubscriptionId → σ) (states' : SubscriptionId → σ × List Command)
      (command : Command)
      (hstates : InStep start { d with state := states } { d' with state := states' }) :=
    hstates.command id command
  obtain ⟨hresponse, htrace, hfinal⟩ := hprogram.simulates hcards h
  rw [← perform_trace, ← perform_trace] at htrace
  exact ⟨hresponse, htrace, hfinal⟩

/-- Records change nothing about a run, and tell what becomes of each card. -/
theorem run_recording (c : Client) {start d : Device σ} {d' : Device (σ × List Command)}
    (h : InStep start d d') (ops : List (SubscriptionId × Request)) :
    (run c d ops).value.1 = (run c d' ops).value.1 ∧ (run c d ops).trace = (run c d' ops).trace ∧
      InStep start (run c d ops).value.2 (run c d' ops).value.2 := by
  induction ops generalizing d d' with
  | nil => exact ⟨rfl, rfl, h⟩
  | cons op rest ih =>
    obtain ⟨id, request⟩ := op
    obtain ⟨hresponse, htrace, hnext⟩ := h.perform c id request
    obtain ⟨hresponses, htraces, hfinal⟩ := ih hnext
    rw [run_cons_value, run_cons_value, run_cons_trace, run_cons_trace]
    exact ⟨by rw [hresponse, hresponses], by rw [htrace, htraces], hfinal⟩

/-! ## The same subscription elsewhere -/

/-- However requests are mixed, each has its response, and a subscription's responses, the
commands its card receives and the state they leave it in are those of its own requests
alone, on any phone and with any settings that agree about the subscription. These requests
send no command to another card and leave it as it was. Challenges are answered by the card of
their subscription, where it is valid. -/
theorem run_isolated {c c' : Client} {d d' : Device σ} {s : SubscriptionId}
    (hclient : c.AgreeAbout c' s) (hdevice : d.AgreeAbout d' s)
    (ops : List (SubscriptionId × Request)) :
    let own := ops.filter (·.1 = s)
    let mixed := (run c d ops).value
    let alone := (run c' d' own).value
    mixed.1.map Prod.fst = ops.map Prod.fst ∧
    mixed.1.filter (·.1 = s) = alone.1 ∧
    mixed.2.state s = alone.2.state s ∧
    received c d ops s = received c' d' own s ∧
    (d.line s).card.after (d.state s) (received c d ops s) = mixed.2.state s ∧
    (∀ other, other ≠ s →
      received c' d' own other = [] ∧ alone.2.state other = d'.state other) ∧
    (0 ≤ s.value →
      (∀ route challenges,
        AnsweredBy d s (Gsm.authenticate (d.line s).card route.layout route.app challenges)
          .records (perform c d s (.gsm route challenges))) ∧
      ∀ request, AnsweredBy d s (Umts.authenticate (d.line s).card request.data) .umts
        (perform c d s (.umts request))) := by
  intro own mixed alone
  obtain ⟨hresponses, hagree⟩ := run_filter hclient hdevice ops
  -- The record of the card of `s` is part of its state on the recording devices.
  have hrecorded := (run_filter hclient hdevice.recording ops).2
  obtain ⟨-, -, hinstep⟩ := run_recording c (inStep_recording d) ops
  refine ⟨map_fst_run c d ops, hresponses, hagree.state, congrArg Prod.snd hrecorded.state,
    hinstep.record s, fun other hother => ?_, fun hs => ?_⟩
  · have hown : ∀ op ∈ own, other ≠ op.1 := by
      intro op hop
      have hid : op.1 = s := by simpa using (List.mem_filter.mp hop).2
      rwa [hid]
    exact ⟨congrArg Prod.snd (run_other c' d'.recording hown).state,
      (run_other c' d' hown).state⟩
  · have hvalid := SubscriptionId.isValid_iff.mpr hs
    exact ⟨answeredBy_gsm c d hvalid, answeredBy_umts c d hvalid⟩

/-- A phone whose second subscription loses its subscriber and must encrypt serves the
first one as before, in the middle of requests for the second. -/
theorem run_isolated_between_two_cards :
    let one : SubscriptionId := { value := 1 }
    let two : SubscriptionId := { value := 2 }
    let line : Line ScriptedCard :=
      { subscriber := some { imsi := "310150123456789", operatorCode := "310150", ready := true }
        key := .ok none
        card := ScriptedCard.answer }
    let c : Client := { cipher := .echo }
    let c' : Client := { c with settings := c.settings.withCarrier two ⟨true, true⟩ }
    let d : Device ScriptedCard :=
      { line := fun _ => line, state := fun _ => { otherwise := some [1, 7, 2, 8, 9] } }
    let d' : Device ScriptedCard := d.setLine two { line with subscriber := none } {}
    let ops : List (SubscriptionId × Request) :=
      [(two, .gsm .sim ["0a"]), (one, .gsm .usim ["01"]), (two, .simIdentity ⟨.sim, .unset⟩),
        (one, .simIdentity ⟨.sim, .unset⟩)]
    let own := ops.filter (·.1 = one)
    c.AgreeAbout c' one ∧ d.AgreeAbout d' one ∧
    received c d ops one = [⟨.usim, .eapSim, "AQE="⟩] ∧
    received c d ops two = [⟨.sim, .eapSim, "AQo="⟩] ∧
    received c' d' own one = received c d ops one ∧
    received c' d' own two = [] ∧
    (run c d ops).value.1.filter (·.1 = one) = (run c' d' own).value.1 := by
  intro one two line c c' d d' ops own
  have hclient : c.AgreeAbout c' one := ⟨rfl, rfl⟩
  have hdevice : d.AgreeAbout d' one := ⟨rfl, rfl⟩
  obtain ⟨-, hresponses, -, hreceived, -, hothers, -⟩ := run_isolated hclient hdevice ops
  exact ⟨hclient, hdevice, rfl, rfl, hreceived.symm, (hothers two (by decide)).1, hresponses⟩

end Device

end CarrierAuth
