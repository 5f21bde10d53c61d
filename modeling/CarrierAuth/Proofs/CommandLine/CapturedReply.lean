import CarrierAuth.Proofs.Card.WhiteSpace
import CarrierAuth.Proofs.CommandLine.Output

/-
  Captured replies — what the program makes of a reply that was captured earlier, against
  what a session makes of a card that gives it.

  The program and the sessions read a reply in the same two steps, its text and then its
  octets, but each goes its own way from there: the program prints lines where a session
  returns an answer, and puts its own words in front of a fault.

  What is proved:
    1. `AsksToDecode.exists_run`, `asksToDecode_behind_hyphens` — what a command line that
       asks to decode a reply leads to; behind two hyphens every text is a reply.
    2. `follows_reading` — a task that reads a reply and prints what it holds succeeds
       exactly when the reply can be read, and complains in the words of the fault
       otherwise.
    3. `captured_reply_read_as_live` — the program agrees with the sessions on every
       reply, in both GSM layouts and for UMTS.
-/
namespace CarrierAuth.CommandLine

/-! ## Command lines -/

def gsmTaskName : GsmLayout → String
  | .counted => "decode-gsm"
  | .fixed => "decode-gsm-fixed"

def umtsTaskName : String := "decode-umts"

/-- Whether a command line names a task with a reply as its only word, and its settings
can be loaded. -/
structure AsksToDecode (env : Surroundings) (args : List String) (name reply : String) : Prop where
  names : ∃ options rest, parseHead generalOptions {} none args = .ok (options, name, rest) ∧
    (parse [helpOption] 1 {} none rest).map Parsed.words = .ok [reply]
  loads : ∃ inv settings, Invocation.ofArguments args = .ok inv ∧
    loadSettings env inv = .ok settings

/-- The name of a task decides how the arguments behind it are read. -/
theorem ofArguments_of_head {args rest : List String} {options : Parsed} {name : String}
    {readTask : List String → Except Stop Task}
    (hhead : parseHead generalOptions {} none args = .ok (options, name, rest))
    (hhelp : name ≠ helpTask) (hname : tasks.lookup name = some readTask) :
    Invocation.ofArguments args = (readTask rest).map fun task =>
      ⟨options.value? "config", (options.value? "log-level").bind Level.read?, task⟩ := by
  rw [Invocation.ofArguments, hhead]
  show (if name = helpTask then _ else _) = _
  rw [if_neg hhelp, hname]
  show (readTask rest >>= fun task => _) = _
  cases readTask rest <;> rfl

theorem decodeTask_of_words {task : String → Task} {args : List String} {reply : String}
    (h : (parse [helpOption] 1 {} none args).map Parsed.words = .ok [reply]) :
    decodeTask task args = .ok (task reply) := by
  obtain ⟨parsed, hparsed, hwords⟩ := Outcome.map_eq_ok_iff.mp h
  rw [decodeTask, hparsed]
  show (do return task (← required parsed.words.head?)) = _
  rw [hwords]
  rfl

theorem AsksToDecode.exists_run {env : Surroundings} {args : List String} {name reply : String}
    {task : String → Task} (h : AsksToDecode env args name reply) (hhelp : name ≠ helpTask)
    (hname : tasks.lookup name = some (decodeTask task)) :
    ∃ f settings, run env args = .ofWork f (runWith env (task reply) settings) := by
  obtain ⟨⟨options, rest, hhead, hwords⟩, inv, settings, hinv, hload⟩ := h
  have htask : inv.task = task reply := by
    have hargs := ofArguments_of_head hhead hhelp hname
    rw [decodeTask_of_words hwords, hinv] at hargs
    exact congrArg Invocation.task (Except.ok.inj hargs)
  refine ⟨logFilter env inv settings, settings, ?_⟩
  rw [run, hinv, ← htask]
  exact run_of_settings hload

/-- Behind two hyphens every text is a reply. -/
theorem asksToDecode_behind_hyphens (env : Surroundings) (name : String)
    (h : name ∈ [gsmTaskName .counted, gsmTaskName .fixed, umtsTaskName]) (reply : String) :
    AsksToDecode env [name, "--", reply] name reply := by
  simp only [List.mem_cons, List.not_mem_nil, or_false] at h
  rcases h with rfl | rfl | rfl <;>
    exact ⟨⟨_, _, rfl, rfl⟩, _, _, rfl, rfl⟩

/-! ## Reading a reply -/

/-- What the outcome of a task has in common with reading a reply: it is a success when
the reply can be read and shows what is in it behind the log; otherwise the complaint ends
with what is wrong. -/
structure Follows {α : Type} (o : Outcome) (read : Except AuthFault α) (lines : α → List Shown) :
    Prop where
  status : o.status = 0 ↔ ∃ a, read = .ok a
  shown : ∀ a, read = .ok a → ∃ log : List Event, o.shown = log.map .event ++ lines a
  complaint : ∀ fault, read = .error fault → ∃ front, o.complaint = some (front ++ fault.message)

def printReply {α : Type} (decode : Octets → Traced (Except AuthFault α))
    (wrap : AuthFault → ProgramFault) (print : α → Traced Unit) (reply : String) :
    Traced (Except ProgramFault Unit) :=
  match replyOctets (some reply) with
  | .error fault => return .error (.reply fault)
  | .ok data => do
    match ← decode data with
    | .error fault => return .error (wrap fault)
    | .ok a =>
      print a
      return .ok ()

theorem run_decodeGsm (env : Surroundings) (layout : GsmLayout) (reply : String) :
    (Task.decodeGsm layout reply).run env =
      printReply (Gsm.decode layout) .gsm printRecord reply := by
  rw [Task.run, printGsm, printReply]
  cases replyOctets (some reply) with
  | error fault => rfl
  | ok data =>
    refine bind_congr fun decoded => ?_
    cases decoded <;> rfl

theorem run_decodeUmts (env : Surroundings) (reply : String) :
    (Task.decodeUmts reply).run env =
      printReply Umts.decode .umts (fun result => Traced.print result.answer.render) reply := by
  rw [Task.run, printUmts, printReply]
  cases replyOctets (some reply) with
  | error fault => rfl
  | ok data =>
    refine bind_congr fun decoded => ?_
    cases decoded <;> rfl

/-- What a reply holds, decoded in some way. -/
def reading {α : Type} (decode : Octets → Traced (Except AuthFault α)) (reply : String) :
    Except AuthFault α := do
  let data ← replyOctets (some reply)
  (decode data).value

section
variable {α : Type} {decode : Octets → Traced (Except AuthFault α)}
  (wrap : AuthFault → ProgramFault) (print : α → Traced Unit) {reply : String}

theorem printReply_of_ok (hquiet : ∀ data, (decode data).lines = []) {a : α}
    (h : reading decode reply = .ok a) (f : Filter) :
    (printReply decode wrap print reply).value = .ok () ∧ ∃ log : List Event,
      shown f (printReply decode wrap print reply) = log.map .event ++ shown f (print a) := by
  obtain ⟨data, hdata, ha⟩ := Outcome.bind_eq_ok_iff.mp h
  obtain ⟨log, hlog⟩ := exists_log_of_quiet (hquiet data) f
  rw [printReply, hdata]
  refine ⟨?_, log, ?_⟩
  · simp only [Traced.value_bind, ha]
    rfl
  · simp only [shown_bind, ha, hlog, shown_pure, List.append_nil]

/-- A reply that cannot be read is what the task fails of; the program may put words of its
own in front. -/
theorem printReply_of_error
    (hwrap : ∀ fault, ∃ front, (wrap fault).message = front ++ fault.message) {fault : AuthFault}
    (h : reading decode reply = .error fault) :
    ∃ worded front, (printReply decode wrap print reply).value = .error worded ∧
      worded.message = front ++ fault.message := by
  rw [printReply]
  rcases Outcome.bind_eq_error_iff.mp h with hdata | ⟨data, hdata, hfault⟩
  · rw [hdata]
    exact ⟨.reply fault, "", rfl, String.empty_append.symm⟩
  · obtain ⟨front, hfront⟩ := hwrap fault
    refine ⟨wrap fault, front, ?_, hfront⟩
    rw [hdata]
    simp only [Traced.value_bind, hfault]
    rfl

theorem follows_reading (hquiet : ∀ data, (decode data).lines = [])
    (hwrap : ∀ fault, ∃ front, (wrap fault).message = front ++ fault.message)
    {env : Surroundings} {task : Task} (htask : task.run env = printReply decode wrap print reply)
    (f : Filter) (settings : ClientSettings) :
    Follows (.ofWork f (runWith env task settings)) (reading decode reply)
      fun a => shown f (print a) := by
  have hvalue : (runWith env task settings).value = (printReply decode wrap print reply).value := by
    rw [value_runWith, htask]
  have hok {a : α} (hread : reading decode reply = .ok a) : ∃ log : List Event,
      Outcome.ofWork f (runWith env task settings) =
        ⟨0, log.map .event ++ shown f (print a), none⟩ := by
    obtain ⟨hdone, log, hlog⟩ := printReply_of_ok wrap print hquiet hread f
    obtain ⟨loaded, hloaded⟩ := exists_log_of_quiet (Traced.lines_log [loadedEvent settings]) f
    refine ⟨loaded ++ log, ?_⟩
    rw [ofWork_of_ok (hvalue.trans hdone), runWith, shown_bind, htask, hlog, hloaded,
      List.map_append, List.append_assoc]
  have herror {fault : AuthFault} (hread : reading decode reply = .error fault) : ∃ front,
      (Outcome.ofWork f (runWith env task settings)).status = 1 ∧
      (Outcome.ofWork f (runWith env task settings)).complaint =
        some (front ++ fault.message) := by
    obtain ⟨worded, front, hfailed, hmessage⟩ := printReply_of_error wrap print hwrap hread
    rw [ofWork_of_error (hvalue.trans hfailed), Outcome.failure, hmessage, ← String.append_assoc]
    exact ⟨_, rfl, rfl⟩
  refine ⟨⟨fun hstatus => ?_, fun hread => ?_⟩, fun a hread => ?_, fun fault hread => ?_⟩
  · cases hread : reading decode reply with
    | ok a => exact ⟨a, rfl⟩
    | error fault =>
      obtain ⟨_, hone, -⟩ := herror hread
      omega
  · obtain ⟨a, hread⟩ := hread
    obtain ⟨log, hdone⟩ := hok hread
    rw [hdone]
  · obtain ⟨log, hdone⟩ := hok hread
    exact ⟨log, by rw [hdone]⟩
  · obtain ⟨front, -, hcomplaint⟩ := herror hread
    exact ⟨front, hcomplaint⟩

end

/-! ## The program and the sessions -/

theorem follows_gsm {env : Surroundings} {args : List String} {layout : GsmLayout} {reply : String}
    (h : AsksToDecode env args (gsmTaskName layout) reply) :
    Follows (run env args) (Gsm.outcome layout (some reply)) fun record =>
      [.line ("sres: " ++ Hex.encode record.sres), .line ("kc:   " ++ Hex.encode record.kc),
        .line ("GSM-AUTH" ++ renderRecords [record])] := by
  have hname : tasks.lookup (gsmTaskName layout) = some (decodeTask (.decodeGsm layout)) := by
    cases layout <;> rfl
  obtain ⟨f, settings, hrun⟩ := h.exists_run (by cases layout <;> decide) hname
  have hwrap (fault : AuthFault) :
      ∃ front, (ProgramFault.gsm fault).message = front ++ fault.message := ⟨_, rfl⟩
  rw [hrun]
  exact follows_reading _ _ (Gsm.lines_decode layout) hwrap (run_decodeGsm env layout reply) f
    settings

theorem follows_umts {env : Surroundings} {args : List String} {reply : String}
    (h : AsksToDecode env args umtsTaskName reply) :
    Follows (run env args) (Umts.outcome (some reply)) fun result =>
      [.line result.answer.render] := by
  have hname : tasks.lookup umtsTaskName = some (decodeTask .decodeUmts) := rfl
  obtain ⟨f, settings, hrun⟩ := h.exists_run (by decide) hname
  have hwrap (fault : AuthFault) :
      ∃ front, (ProgramFault.umts fault).message = front ++ fault.message := ⟨_, rfl⟩
  rw [hrun]
  exact follows_reading _ _ Umts.lines_decode hwrap (run_decodeUmts env reply) f settings

/-- The program reads captured replies as sessions read live ones. Wherever a command line
takes a reply to a decoding task, the task succeeds exactly when the answer to one
challenge of a card that gives this reply is no fault. The lines it then prints are the
fields of the answer and the answer itself; otherwise its complaint ends with the words of
the fault. -/
theorem captured_reply_read_as_live {σ : Type} (env : Surroundings) (args : List String)
    (card : Card σ) (s : σ) (reply : String) (hcard : ∀ c, (card s c).1 = some reply) :
    (∀ layout app text, AsksToDecode env args (gsmTaskName layout) reply → Gsm.IsChallenge text →
      let o := run env args
      let live := ((Gsm.authenticate card layout app [text]).result s).map renderRecords
      (o.status = 0 ↔ ∃ answer, live = .ok answer) ∧
      (∀ answer, live = .ok answer → ∃ (kc sres : Octets) (log : List Event),
        answer = ":" ++ Hex.encode kc ++ ":" ++ Hex.encode sres ∧
        o.shown = log.map .event ++ [.line ("sres: " ++ Hex.encode sres),
          .line ("kc:   " ++ Hex.encode kc), .line ("GSM-AUTH" ++ answer)]) ∧
      (∀ fault, live = .error fault → ∃ front, o.complaint = some (front ++ fault.message))) ∧
    (∀ randText autnText, AsksToDecode env args umtsTaskName reply → Hex.WellFormed randText →
      Hex.WellFormed autnText →
      let o := run env args
      let live := (Umts.authenticate card [randText, autnText]).result s
      (o.status = 0 ↔ ∃ result, live = .ok result) ∧
      (∀ result, live = .ok result →
        ∃ log : List Event, o.shown = log.map .event ++ [.line result.answer.render]) ∧
      (∀ fault, live = .error fault → ∃ front, o.complaint = some (front ++ fault.message))) := by
  refine ⟨fun layout app text hasks htext => ?_, fun randText autnText hasks hrand hautn => ?_⟩
  · intro o live
    have hlive : live = (Gsm.outcome layout (some reply)).map GsmRecord.render := by
      have hresult := Gsm.result_authenticate_single card layout app s htext
      rw [hcard] at hresult
      show Except.map renderRecords _ = _
      rw [hresult]
      cases Gsm.outcome layout (some reply) <;> rfl
    obtain ⟨hstatus, hshown, hcomplaint⟩ := follows_gsm hasks
    rw [hlive]
    refine ⟨?_, fun answer hanswer => ?_, fun fault hfault => ?_⟩
    · rw [Outcome.exists_map_eq_ok_iff]
      exact hstatus
    · obtain ⟨record, hrecord, rfl⟩ := Outcome.map_eq_ok_iff.mp hanswer
      obtain ⟨log, hlog⟩ := hshown record hrecord
      exact ⟨record.kc, record.sres, log, rfl, hlog⟩
    · exact hcomplaint fault (Outcome.map_eq_error_iff.mp hfault)
  · intro o live
    obtain ⟨rand, hrand⟩ := Hex.exists_decode_iff.mpr hrand
    obtain ⟨autn, hautn⟩ := Hex.exists_decode_iff.mpr hautn
    have hlive : live = Umts.outcome (some reply) := by
      rw [← hcard]
      exact Umts.result_authenticate card s hrand hautn
    obtain ⟨hstatus, hshown, hcomplaint⟩ := follows_umts hasks
    rw [hlive]
    exact ⟨hstatus, hshown, hcomplaint⟩

/-- A GSM reply with an octet too many is printed behind the log and is what a session
answers; a fixed one that is cut short fails in both; a UMTS reply with a token for
resynchronisation is printed as such. -/
theorem captured_replies_agree :
    (let reply := "BBEiM0QIqrvM3e7/AAH/"
      let args := ["-l", "debug", "decode-gsm", reply]
      AsksToDecode .empty args (gsmTaskName .counted) reply ∧ Gsm.IsChallenge "01" ∧
      (run .empty args).status = 0 ∧
      ∃ answer, ((Gsm.authenticate (.always reply) .counted .usim ["01"]).result ()).map
        renderRecords = .ok answer) ∧
    (let reply := "ESIzRAECAwQFBgc="
      let args := [gsmTaskName .fixed, "--", reply]
      AsksToDecode .empty args (gsmTaskName .fixed) reply ∧
      ((Gsm.authenticate (.always reply) .fixed .sim ["01"]).result ()).map renderRecords =
        .error (.unexpectedLength 12 11) ∧
      ∃ front, (run .empty args).complaint =
        some (front ++ "Unexpected response length: expected 12 bytes, got 11")) ∧
    (let reply := "3AKquw=="
      let args := [umtsTaskName, "--", reply]
      AsksToDecode .empty args umtsTaskName reply ∧ Hex.WellFormed "01" ∧ Hex.WellFormed "" ∧
      (Umts.authenticate (.always reply) ["01", ""]).result () =
        .ok (.syncFailure [0xaa, 0xbb]) ∧
      ∃ log : List Event,
        (run .empty args).shown = log.map .event ++ [.line "UMTS-AUTS:aabb"]) := by
  have htext : Gsm.IsChallenge "01" := ⟨by decide, Hex.wellFormed_encode [0x01]⟩
  have hnone : Hex.WellFormed "" := Hex.wellFormed_encode []
  have hlive (args : List String) (reply : String) :=
    captured_reply_read_as_live .empty args (.always reply) () reply fun _ => rfl
  dsimp only
  refine ⟨?_, ?_, ?_⟩
  · have hasks : AsksToDecode .empty ["-l", "debug", "decode-gsm", "BBEiM0QIqrvM3e7/AAH/"]
        (gsmTaskName .counted) "BBEiM0QIqrvM3e7/AAH/" := ⟨⟨_, _, rfl, rfl⟩, _, _, rfl, rfl⟩
    obtain ⟨hstatus, -, -⟩ := (hlive _ _).1 .counted .usim "01" hasks htext
    exact ⟨hasks, htext, rfl, hstatus.mp rfl⟩
  · have hasks := asksToDecode_behind_hyphens .empty (gsmTaskName .fixed) (by decide)
      "ESIzRAECAwQFBgc="
    obtain ⟨-, -, hcomplaint⟩ := (hlive _ _).1 .fixed .sim "01" hasks htext
    exact ⟨hasks, rfl, hcomplaint (.unexpectedLength 12 11) rfl⟩
  · have hasks := asksToDecode_behind_hyphens .empty umtsTaskName (by decide) "3AKquw=="
    obtain ⟨-, hshown, -⟩ := (hlive _ _).2 "01" "" hasks htext.2 hnone
    exact ⟨hasks, htext.2, hnone, rfl, hshown (.syncFailure [0xaa, 0xbb]) rfl⟩

end CarrierAuth.CommandLine
