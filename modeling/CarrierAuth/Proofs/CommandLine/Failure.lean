import CarrierAuth.Proofs.CommandLine.CapturedReply

/-
  Failing runs — what stands on standard output when the program ends with a failure.

  Every task prints its lines once nothing can go wrong any more, with one exception: the
  permanent identity is printed as soon as it is built, and only then is the key read that
  it is to be encrypted with. A key that cannot be used makes the run fail and leaves the
  identity in clear text behind.

  What is proved:
    1. `printsOnSuccess_printEncrypted` and its like — the parts that print late.
    2. `lines_run_of_error` — the lines of a task that fails.
    3. `failing_run_shows_identity_at_most` — the same of whole runs, with the log.
-/
namespace CarrierAuth.CommandLine

/-! ## Tasks that print late -/

section
variable {env : Surroundings}

theorem printsOnSuccess_printEncrypted
    (hcipher : ∀ key plaintext, (env.cipher key plaintext).lines = []) (path : String)
    (keyId : Option String) (identity : String) :
    PrintsOnSuccess (printEncrypted env path keyId identity) := by
  rw [printEncrypted]
  cases env.contents path with
  | error fault => exact .error _
  | ok pem =>
    dsimp only
    cases Pem.readKey pem with
    | none => exact .error _
    | some key =>
      refine .after (Identity.lines_encrypted hcipher _ _) ?_
      cases (Identity.encrypted env.cipher ⟨key, keyId⟩ identity).value with
      | error fault => exact .error _
      | ok encrypted => exact .of_ok rfl

theorem printsOnSuccess_printAnonymous (method : EapMethod) (code : String) (withDigit : Bool) :
    PrintsOnSuccess (printAnonymous method code withDigit) := by
  rw [printAnonymous]
  cases Operator.ofCode code with
  | error fault => exact .error _
  | ok op => exact .of_ok rfl

theorem printsOnSuccess_printPseudonym (pseudonym code : String) :
    PrintsOnSuccess (printPseudonym pseudonym code) := by
  rw [printPseudonym]
  cases Operator.ofCode code with
  | error fault => exact .error _
  | ok op =>
    dsimp only
    cases Identity.decorate? pseudonym op with
    | none => exact .error _
    | some decorated => exact .of_ok rfl

theorem printsOnSuccess_printReply {α : Type} {decode : Octets → Traced (Except AuthFault α)}
    (hquiet : ∀ data, (decode data).lines = []) (wrap : AuthFault → ProgramFault)
    (print : α → Traced Unit) (reply : String) :
    PrintsOnSuccess (printReply decode wrap print reply) := by
  rw [printReply]
  cases replyOctets (some reply) with
  | error fault => exact .error _
  | ok data =>
    refine .after (hquiet data) ?_
    cases (decode data).value with
    | error fault => exact .error _
    | ok a => exact .of_ok rfl

/-! ## Lines of a failure -/

/-- The identity that a task prints before it reads the key to encrypt it with. -/
def Task.earlyIdentity? : Task → Option String
  | .identity method imsi code (some _) _ => (Identity.permanent method imsi code).value.toOption
  | _ => none

def identityLine (identity : String) : String := "identity: " ++ identity

variable (hcipher : ∀ key plaintext, (env.cipher key plaintext).lines = [])
include hcipher

/-- The permanent identity is printed as soon as it is built; the rest prints late. -/
theorem lines_printIdentity_of_error {method : EapMethod} {imsi code : String}
    {keyFile keyId : Option String} {fault : ProgramFault}
    (h : (printIdentity env method imsi code keyFile keyId).value = .error fault) :
    (printIdentity env method imsi code keyFile keyId).lines =
      ((Task.identity method imsi code keyFile keyId).earlyIdentity?.map identityLine).toList := by
  rw [printIdentity, Traced.value_bind] at h
  rw [printIdentity, Traced.lines_bind, Identity.lines_permanent]
  cases hidentity : (Identity.permanent method imsi code).value with
  | error reason => cases keyFile <;> simp [Task.earlyIdentity?, hidentity, Except.toOption]
  | ok identity =>
    simp only [hidentity] at h
    cases keyFile with
    | none => cases h
    | some path =>
      have hrest := printsOnSuccess_printEncrypted hcipher path keyId identity fault h
      simp [Task.earlyIdentity?, hidentity, Except.toOption, hrest, identityLine]

/-- A task that fails has printed the identity that it prints early, and nothing else. -/
theorem lines_run_of_error {task : Task} {fault : ProgramFault}
    (h : (task.run env).value = .error fault) :
    (task.run env).lines = (task.earlyIdentity?.map identityLine).toList := by
  cases task with
  | identity method imsi code keyFile keyId => exact lines_printIdentity_of_error hcipher h
  | anonymous method code withDigit => exact printsOnSuccess_printAnonymous _ _ _ fault h
  | pseudonym pseudonym code => exact printsOnSuccess_printPseudonym _ _ fault h
  | decodeGsm layout reply =>
    rw [run_decodeGsm] at h ⊢
    exact printsOnSuccess_printReply (Gsm.lines_decode layout) _ _ _ fault h
  | decodeUmts reply =>
    rw [run_decodeUmts] at h ⊢
    exact printsOnSuccess_printReply Umts.lines_decode _ _ _ fault h

/-! ## Runs that fail -/

theorem lines_of_failure {inv : Invocation} {settings : ClientSettings}
    (hload : loadSettings env inv = .ok settings) (hfail : (inv.run env).status ≠ 0) :
    (inv.run env).shown.filterMap Shown.line? =
      (inv.task.earlyIdentity?.map identityLine).toList := by
  have hrun := run_of_settings hload
  cases hvalue : (runWith env inv.task settings).value with
  | ok done =>
    rw [hrun, ofWork_of_ok hvalue] at hfail
    exact absurd rfl hfail
  | error fault =>
    rw [hrun, ofWork_of_error hvalue, Outcome.failure, lines_shown, lines_runWith]
    exact lines_run_of_error hcipher hvalue

/-- A run that fails shows nothing but its log, with one exception: when it builds an
identity and is to encrypt it, the identity stands there in clear text. Without settings
there is no log either. -/
theorem failing_run_shows_identity_at_most (inv : Invocation)
    (hfail : (inv.run env).status ≠ 0) :
    (∀ fault, loadSettings env inv = .error fault → (inv.run env).shown = []) ∧
    (∀ settings, loadSettings env inv = .ok settings → inv.task.earlyIdentity? = none →
      ∃ log : List Event, (inv.run env).shown = log.map .event) ∧
    (∀ settings identity, loadSettings env inv = .ok settings →
      inv.task.earlyIdentity? = some identity →
      ∃ before after : List Event, (inv.run env).shown =
        before.map .event ++ .line ("identity: " ++ identity) :: after.map .event) := by
  refine ⟨fun fault hload => ?_, fun settings hload hnone => ?_,
    fun settings identity hload hsome => ?_⟩
  · rw [Invocation.run, hload]
    rfl
  · have hlines := lines_of_failure hcipher hload hfail
    rw [hnone] at hlines
    exact exists_log_of_lines hlines
  · have hlines := lines_of_failure hcipher hload hfail
    rw [hsome] at hlines
    exact exists_logs_of_line hlines

end

/-- Three runs that fail where there are no files: one shows nothing, one its log, and one
the identity that was to be encrypted. -/
theorem failing_runs_without_files :
    (∀ key plaintext, (Surroundings.empty.cipher key plaintext).lines = []) ∧
    (let o := Invocation.run .empty ⟨some "missing.yaml", some .debug, .pseudonym "p" "310150"⟩;
      o.status ≠ 0 ∧ o.shown = []) ∧
    (let o := Invocation.run .empty ⟨none, some .debug, .pseudonym "" "310150"⟩;
      o.status ≠ 0 ∧ ∃ log : List Event, o.shown = log.map .event) ∧
    (let o := Invocation.run .empty
        ⟨none, none, .identity .aka "310150123456789" "" (some "missing.pem") none⟩;
      o.status ≠ 0 ∧ ∃ before after : List Event, o.shown = before.map .event ++
        .line "identity: 0310150123456789@wlan.mnc150.mcc310.3gppnetwork.org" ::
          after.map .event) := by
  have hcipher (key plaintext) : (Surroundings.empty.cipher key plaintext).lines = [] :=
    Oaep.lines_cipher [] key plaintext
  dsimp only
  refine ⟨hcipher, ⟨by decide, ?_⟩, ⟨by decide, ?_⟩, by decide, ?_⟩
  · obtain ⟨hunloaded, -, -⟩ := failing_run_shows_identity_at_most hcipher
      ⟨some "missing.yaml", some .debug, .pseudonym "p" "310150"⟩ (by decide)
    exact hunloaded _ rfl
  · obtain ⟨-, hlog, -⟩ := failing_run_shows_identity_at_most hcipher
      ⟨none, some .debug, .pseudonym "" "310150"⟩ (by decide)
    exact hlog _ rfl rfl
  · obtain ⟨-, -, hidentity⟩ := failing_run_shows_identity_at_most hcipher
      ⟨none, none, .identity .aka "310150123456789" "" (some "missing.pem") none⟩ (by decide)
    exact hidentity _ _ rfl rfl

theorem clear_identity_without_key :
    let args := ["identity", "-m", "aka", "-i", "310150123456789", "-k", "missing.pem"]
    Invocation.ofArguments args =
      .ok ⟨none, none, .identity .aka "310150123456789" "" (some "missing.pem") none⟩ ∧
    (run .empty args).status = 1 ∧
    (run .empty args).shown =
      [.line "identity: 0310150123456789@wlan.mnc150.mcc310.3gppnetwork.org"] :=
  ⟨rfl, rfl, rfl⟩

end CarrierAuth.CommandLine
