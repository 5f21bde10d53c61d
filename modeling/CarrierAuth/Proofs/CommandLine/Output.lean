import CarrierAuth.CommandLine.Program
import CarrierAuth.Cipher.Oaep

/-
  Standard output — what the program writes there, and when.

  Lines and the events of the log stand on standard output one after the other. Which
  lines stand there depends on the computation only (`lines_shown`); the filter of the log
  decides about the events between them.

  What is proved:
    1. `exists_log_of_lines`, `exists_logs_of_line` — output with no line is the log, and
       output with one line is the log around it.
    2. `PrintsOnSuccess` — a computation that writes no line unless it succeeds; a chain
       does so when its first step writes none and the rest does so.
    3. `lines_decode`, `lines_permanent`, `lines_encrypted` — decoding replies and building
       identities write no line.
-/
namespace CarrierAuth

variable {α β ε : Type}

namespace CommandLine

/-- The line shown, where it is one. -/
def Shown.line? : Shown → Option String
  | .line text => some text
  | .event _ => none

/-- What a computation shows under a filter of the log. -/
def shown (f : Filter) (x : Traced α) : List Shown := x.trace.filterMap (Shown.ofAct f)

@[simp] theorem shown_bind (f : Filter) (x : Traced α) (g : α → Traced β) :
    shown f (x >>= g) = shown f x ++ shown f (g x.value) := by
  simp [shown]

@[simp] theorem shown_pure (f : Filter) (a : α) : shown f (pure a) = [] := rfl

theorem lines_shown (f : Filter) (x : Traced α) :
    (shown f x).filterMap Shown.line? = x.lines := by
  rw [shown, Traced.lines, List.filterMap_filterMap]
  congr 1
  funext a
  cases a with
  | logged e =>
    simp only [Shown.ofAct, Act.line?]
    split <;> rfl
  | asked _ _ => rfl
  | enciphered _ => rfl
  | printed _ => rfl

theorem exists_log_of_lines {output : List Shown} (h : output.filterMap Shown.line? = []) :
    ∃ log : List Event, output = log.map .event := by
  induction output with
  | nil => exact ⟨[], rfl⟩
  | cons first rest ih =>
    cases first with
    | line text => cases h
    | event e =>
      obtain ⟨log, rfl⟩ := ih h
      exact ⟨e :: log, rfl⟩

theorem exists_log_of_quiet {x : Traced α} (h : x.lines = []) (f : Filter) :
    ∃ log : List Event, shown f x = log.map .event :=
  exists_log_of_lines ((lines_shown f x).trans h)

theorem exists_logs_of_line {output : List Shown} {line : String}
    (h : output.filterMap Shown.line? = [line]) :
    ∃ before after : List Event,
      output = before.map .event ++ .line line :: after.map .event := by
  induction output with
  | nil => cases h
  | cons first rest ih =>
    cases first with
    | line text =>
      obtain ⟨rfl, hrest⟩ := List.cons.inj h
      obtain ⟨after, rfl⟩ := exists_log_of_lines hrest
      exact ⟨[], after, rfl⟩
    | event e =>
      obtain ⟨before, after, rfl⟩ := ih h
      exact ⟨e :: before, after, rfl⟩

/-! ## Runs -/

/-- Surroundings without files, with a cipher of constant seed. -/
def Surroundings.empty : Surroundings :=
  { contents := fun _ => .error .missing, cipher := Oaep.cipher [] }

/-- What work leaves behind under a filter of the log. -/
def Outcome.ofWork (f : Filter) (work : Traced (Except ProgramFault Unit)) : Outcome :=
  match work.value with
  | .ok () => { status := 0, shown := CommandLine.shown f work }
  | .error fault => .failure (CommandLine.shown f work) fault

/-- Once its settings are loaded, an invocation leaves behind what its work does. -/
theorem run_of_settings {env : Surroundings} {inv : Invocation} {settings : ClientSettings}
    (h : loadSettings env inv = .ok settings) :
    inv.run env = .ofWork (logFilter env inv settings) (runWith env inv.task settings) := by
  rw [Invocation.run, h]
  rfl

theorem ofWork_of_ok {f : Filter} {work : Traced (Except ProgramFault Unit)}
    (h : work.value = .ok ()) : Outcome.ofWork f work = ⟨0, shown f work, none⟩ := by
  rw [Outcome.ofWork, h]

theorem ofWork_of_error {f : Filter} {work : Traced (Except ProgramFault Unit)}
    {fault : ProgramFault} (h : work.value = .error fault) :
    Outcome.ofWork f work = .failure (shown f work) fault := by
  rw [Outcome.ofWork, h]

theorem lines_runWith (env : Surroundings) (task : Task) (settings : ClientSettings) :
    (runWith env task settings).lines = (task.run env).lines := by
  simp [runWith]

theorem value_runWith (env : Surroundings) (task : Task) (settings : ClientSettings) :
    (runWith env task settings).value = (task.run env).value := rfl

end CommandLine

/-! ## Computations that write lines late -/

/-- Whether a computation writes no line unless it succeeds. -/
def PrintsOnSuccess (x : Traced (Except ε α)) : Prop :=
  ∀ fault, x.value = .error fault → x.lines = []

namespace PrintsOnSuccess

theorem error (fault : ε) : PrintsOnSuccess (pure (.error fault) : Traced (Except ε α)) := by
  intro _ _
  rfl

theorem of_ok {x : Traced (Except ε α)} {a : α} (h : x.value = .ok a) : PrintsOnSuccess x := by
  intro fault hfault
  rw [h] at hfault
  cases hfault

theorem after {first : Traced β} {f : β → Traced (Except ε α)} (hfirst : first.lines = [])
    (h : PrintsOnSuccess (f first.value)) : PrintsOnSuccess (first >>= f) := by
  intro fault hfault
  rw [Traced.lines_bind, hfirst, h fault hfault]
  rfl

end PrintsOnSuccess

/-! ## Computations that write no line -/

theorem Gsm.lines_decode (layout : GsmLayout) (data : Octets) :
    (decode layout data).lines = [] := by
  cases layout with
  | fixed => rfl
  | counted =>
    rw [decode, decodeCounted]
    split
    · rfl
    · split <;> rfl

theorem Umts.lines_decode (data : Octets) : (decode data).lines = [] := by
  rw [decode]
  split
  · rfl
  · split <;> rfl

namespace Identity

theorem lines_homeOperator (imsi code : String) : (homeOperator imsi code).lines = [] := by
  rw [homeOperator]
  split
  · rw [Traced.lines_bind, Traced.lines_log]
    cases Operator.ofImsi? imsi <;> rfl
  · rfl

theorem lines_permanent (method : EapMethod) (imsi code : String) :
    (permanent method imsi code).lines = [] := by
  rw [permanent]
  split
  · rfl
  · split
    · rfl
    · rw [Traced.lines_bind, lines_homeOperator]
      rfl

theorem lines_encrypted {cipher : Cipher} (h : ∀ key plaintext, (cipher key plaintext).lines = [])
    (key : CarrierKey) (identity : String) : (encrypted cipher key identity).lines = [] := by
  rw [encrypted, Traced.lines_bind, Traced.lines_bind, h]
  cases (cipher key.key (octets identity)).value <;> rfl

end Identity

theorem Oaep.lines_cipher (seed : Octets) (key : PublicKey) (plaintext : Octets) :
    (Oaep.cipher seed key plaintext).lines = [] := by
  rw [Oaep.cipher]
  split <;> rfl

end CarrierAuth
