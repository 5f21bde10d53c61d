import CarrierAuth.Cipher.Oaep
import CarrierAuth.Proofs.Client.ClearText
import CarrierAuth.Proofs.TwoRuns

/-
  The IMSI and the log — a client that builds a permanent identity logs nothing of the
  IMSI, at any level.

  The IMSI is formatted, cut for the realm, and handed to the cipher. Two runs whose
  IMSIs are digits of one length are compared step by step: every step logs the same and
  passes on texts of the same length, which is all that later events and faults depend
  on. The cipher is the caller's. What it does may depend on the length of the plaintext
  only; whether its own log does as well is a question of its own.

  What is proved:
    1. `Identity.alike_permanent`, `Identity.alike_encrypted` — the identity in clear
       text, and its encrypted form.
    2. `Oaep.outcomeByLength_cipher`, `Oaep.logByLength_cipher` — the cipher of the
       library looks at the length of a plaintext only.
    3. `Client.alike_simIdentity` — the whole run, for ciphers that do.
    4. `Client.imsi_reaches_no_log` — for every cipher whose outcome follows from the key
       and the length, the same with the cipher's own log left out.
-/
namespace CarrierAuth

variable {σ : Type}

structure DigitsOfOneLength (a b : String) : Prop where
  isDigit_left : ∀ c ∈ a.toList, c.isDigit = true
  isDigit_right : ∀ c ∈ b.toList, c.isDigit = true
  length_eq : a.length = b.length

/-- Two texts of one length in octets. -/
def SameLength (a b : String) : Prop := octetLength a = octetLength b

theorem DigitsOfOneLength.sameLength {a b : String} (h : DigitsOfOneLength a b) :
    SameLength a b := by
  rw [SameLength, octetLength_of_isDigit h.isDigit_left, octetLength_of_isDigit h.isDigit_right,
    h.length_eq]

/-! ## Realms -/

namespace Operator

/-- Two operators whose codes have the same lengths. -/
structure Similar (op op' : Operator) : Prop where
  mcc : SameLength op.mcc op'.mcc
  mnc : SameLength op.mnc op'.mnc

theorem sameLength_realm {op op' : Operator} (h : Similar op op') :
    SameLength op.realm op'.realm := by
  have hmcc : octetLength op.mcc = octetLength op'.mcc := h.mcc
  have hmnc : octetLength op.mnc = octetLength op'.mnc := h.mnc
  have hpadded : octetLength op.paddedMnc = octetLength op'.paddedMnc := by
    rw [paddedMnc, paddedMnc, hmnc]
    split
    · rw [octetLength_append, octetLength_append, hmnc]
    · exact hmnc
  rw [SameLength, realm, realm]
  simp only [octetLength_append, hmcc, hpadded]

theorem rel_ofImsi? {imsi imsi' : String} (h : DigitsOfOneLength imsi imsi') :
    Option.Rel Similar (ofImsi? imsi) (ofImsi? imsi') := by
  by_cases hsix : 6 ≤ imsi.length
  · obtain ⟨op, hop⟩ := (exists_ofImsi?_iff h.isDigit_left).mpr hsix
    obtain ⟨op', hop'⟩ := (exists_ofImsi?_iff h.isDigit_right).mpr (h.length_eq ▸ hsix)
    obtain ⟨-, -, hmcc, hmnc⟩ := ofImsi?_eq_some_iff.mp hop
    obtain ⟨-, -, hmcc', hmnc'⟩ := ofImsi?_eq_some_iff.mp hop'
    rw [hop, hop']
    exact .some ⟨hmcc.trans hmcc'.symm, hmnc.trans hmnc'.symm⟩
  · have hnone := mt (exists_ofImsi?_iff h.isDigit_left).mp hsix
    have hnone' := mt (exists_ofImsi?_iff h.isDigit_right).mp (h.length_eq ▸ hsix)
    rw [Option.eq_none_iff_forall_ne_some.mpr (not_exists.mp hnone),
      Option.eq_none_iff_forall_ne_some.mpr (not_exists.mp hnone')]
    exact .none

end Operator

/-! ## Identities -/

namespace Identity

theorem alike_homeOperator {imsi imsi' : String} (h : DigitsOfOneLength imsi imsi')
    (code : String) :
    Traced.Alike Operator.Similar (homeOperator imsi code) (homeOperator imsi' code) := by
  have hlength : octetLength imsi = octetLength imsi' := h.sameLength
  rw [homeOperator, homeOperator]
  by_cases hcode : code = ""
  · rw [if_pos hcode, if_pos hcode, derivedRealmEvent, derivedRealmEvent, hlength]
    apply Traced.Alike.after
    intro _
    have hop := Operator.rel_ofImsi? h
    generalize Operator.ofImsi? imsi = found, Operator.ofImsi? imsi' = found' at hop
    cases hop with
    | none => exact .pure (.error _)
    | some hop => exact .pure (.ok hop)
  · rw [if_neg hcode, if_neg hcode]
    apply Traced.Alike.pure
    cases Operator.ofCode code with
    | ok op => exact .ok ⟨rfl, rfl⟩
    | error fault => exact .error fault

theorem alike_permanent (method : EapMethod) {imsi imsi' : String}
    (h : DigitsOfOneLength imsi imsi') (code : String) :
    Traced.Alike SameLength (permanent method imsi code) (permanent method imsi' code) := by
  have hempty : imsi = "" ↔ imsi' = "" := by
    rw [← String.length_eq_zero_iff, ← String.length_eq_zero_iff, h.length_eq]
  rw [permanent, permanent]
  by_cases himsi : imsi = ""
  · rw [if_pos himsi, if_pos (hempty.mp himsi)]
    exact .pure (.error _)
  · rw [if_neg himsi, if_neg (mt hempty.mpr himsi)]
    cases method.leadingDigit? with
    | none => exact .pure (.error _)
    | some digit =>
      apply (alike_homeOperator h code).bind
      · intro op op' hop
        have hlength : octetLength imsi = octetLength imsi' := h.sameLength
        have hrealm : octetLength op.realm = octetLength op'.realm := Operator.sameLength_realm hop
        apply Traced.Alike.pure
        apply Outcome.Alike.ok
        rw [SameLength]
        simp only [octetLength_append, hlength, hrealm]
      · intro fault
        exact .pure (.error fault)

theorem alike_encrypted {cipher : Cipher} (key : CarrierKey) {identity identity' : String}
    (h : Traced.Alike (fun _ _ => True) (cipher key.key (octets identity))
      (cipher key.key (octets identity'))) :
    Traced.Alike (fun _ _ => True) (encrypted cipher key identity)
      (encrypted cipher key identity') := by
  rw [encrypted, encrypted]
  apply Traced.Alike.after
  intro _
  apply h.bind
  · intro ciphertext ciphertext' _
    exact .pure (.ok trivial)
  · intro fault
    exact .of_error rfl

end Identity

/-! ## The client -/

structure Subscriber.SameButImsi (s s' : Subscriber) : Prop where
  imsi : DigitsOfOneLength s.imsi s'.imsi
  operatorCode_eq : s.operatorCode = s'.operatorCode
  ready_eq : s.ready = s'.ready

/-- Two phones that differ in the IMSI of a subscription only, as far as its identity is
concerned: no card is asked for it, nor is anything about other subscriptions. -/
structure Provider.SameButImsi (provider provider' : Provider σ) (id : SubscriptionId) :
    Prop where
  subscriber : Option.Rel Subscriber.SameButImsi (provider.subscriber id)
    (provider'.subscriber id)
  key_eq : provider.key id = provider'.key id

theorem CipherFault.eq_of_message_eq (fault fault' : CipherFault)
    (h : fault.message = fault'.message) : fault = fault' := by
  have hkinds (reason reason' : String) :
      "Invalid public key: " ++ reason ≠ "Encryption failed: " ++ reason' := by
    intro heq
    have hhead := congrArg (fun s : String => s.toList.head?) heq
    simp [String.toList_append] at hhead
  cases fault with
  | invalidKey reason =>
    cases fault' with
    | invalidKey reason' => rw [(String.append_right_inj _).mp h]
    | failed reason' => exact absurd h (hkinds reason reason')
  | failed reason =>
    cases fault' with
    | invalidKey reason' => exact absurd h.symm (hkinds reason' reason)
    | failed reason' => rw [(String.append_right_inj _).mp h]

namespace Cipher

/-- Whether the success of a cipher and the wording of its faults follow from the key and
the length of the plaintext. -/
def OutcomeByLength (cipher : Cipher) : Prop :=
  ∀ key p p', p.length = p'.length →
    Outcome.Alike (fun _ _ => True) ((cipher key p).value.mapError CipherFault.message)
      ((cipher key p').value.mapError CipherFault.message)

/-- Whether the log of a cipher follows from the key and the length of the plaintext. -/
def LogByLength (cipher : Cipher) : Prop :=
  ∀ key p p', p.length = p'.length → (cipher key p).events = (cipher key p').events

/-- The cipher that does the same and logs nothing. -/
def quiet (cipher : Cipher) : Cipher := fun key p => pure (cipher key p).value

theorem outcomeByLength_quiet {cipher : Cipher} (h : cipher.OutcomeByLength) :
    cipher.quiet.OutcomeByLength := h

theorem logByLength_quiet (cipher : Cipher) : cipher.quiet.LogByLength := by
  intro key p p' hlength
  rfl

end Cipher

theorem Oaep.outcomeByLength_cipher (seed : Octets) : (Oaep.cipher seed).OutcomeByLength := by
  intro key p p' hlength
  rw [Oaep.cipher, Oaep.cipher, hlength]
  split
  · exact .error _
  · exact .ok trivial

theorem Oaep.logByLength_cipher (seed : Octets) : (Oaep.cipher seed).LogByLength := by
  intro key p p' hlength
  rw [Oaep.cipher, Oaep.cipher, hlength]
  split
  · rfl
  · rw [Traced.events_pure, Traced.events_pure]

namespace Client

/-- The client with a cipher that logs nothing: what it logs is the library's own. -/
def quiet (c : Client) : Client := { c with cipher := c.cipher.quiet }

theorem withEncrypted_value_quiet (c : Client) (id : SubscriptionId)
    (key : Except String (Option CarrierKey)) (method : EapMethod) (identity : String) :
    (withEncrypted c.quiet id key method identity).value =
      (withEncrypted c id key method identity).value := by
  match key with
  | .error reason => rfl
  | .ok none => rfl
  | .ok (some k) =>
    rw [withEncrypted_key, withEncrypted_key]
    rfl

theorem simIdentity_value_quiet (c : Client) (provider : Provider σ) (id : SubscriptionId)
    (network : NetworkMethod) :
    (simIdentity c.quiet provider id network).value =
      (simIdentity c provider id network).value := by
  simp only [simIdentity_value, withEncrypted_value_quiet]

theorem alike_clearIdentity (id : SubscriptionId) (method : EapMethod) {s s' : Subscriber}
    (h : s.SameButImsi s') :
    Traced.Alike SameLength (clearIdentity id s method) (clearIdentity id s' method) := by
  have hoperator : s.operator? = s'.operator? := by
    rw [Subscriber.operator?, Subscriber.operator?, h.operatorCode_eq, h.ready_eq]
  rw [clearIdentity, clearIdentity, hoperator]
  apply (Identity.alike_permanent method h.imsi _).bind
  · intro identity identity' hlength
    exact .pure (.ok hlength)
  · intro fault
    exact .of_error rfl

theorem alike_withEncrypted {c : Client} (houtcome : c.cipher.OutcomeByLength)
    (hlog : c.cipher.LogByLength) (id : SubscriptionId)
    (key : Except String (Option CarrierKey)) (method : EapMethod) {identity identity' : String}
    (h : SameLength identity identity') :
    Traced.Alike (fun _ _ => True) (withEncrypted c id key method identity)
      (withEncrypted c id key method identity') := by
  match key with
  | .error reason => exact .of_error rfl
  | .ok none =>
    rw [withEncrypted, withEncrypted]
    by_cases hrequired : c.requiresEncryption id = true
    · rw [if_pos hrequired, if_pos hrequired]
      exact .of_error rfl
    · rw [if_neg hrequired, if_neg hrequired]
      apply Traced.Alike.after
      intro _
      exact .pure (.ok trivial)
  | .ok (some k) =>
    rw [withEncrypted, withEncrypted]
    have hcipher := (houtcome k.key _ _ h).of_mapError CipherFault.eq_of_message_eq
    apply (Identity.alike_encrypted k ⟨hlog k.key _ _ h, hcipher⟩).bind
    · intro encrypted encrypted' _
      apply Traced.Alike.after
      intro _
      exact .pure (.ok trivial)
    · intro fault
      exact .of_error rfl

theorem alike_subscriber {provider provider' : Provider σ} {id : SubscriptionId}
    (h : provider.SameButImsi provider' id) :
    Outcome.Alike Subscriber.SameButImsi (subscriber provider id) (subscriber provider' id) := by
  have hknown := h.subscriber
  rw [subscriber, subscriber]
  by_cases hid : id.isValid = true
  · rw [if_pos hid, if_pos hid]
    generalize provider.subscriber id = known, provider'.subscriber id = known' at hknown
    cases hknown with
    | none => exact .error _
    | some hs => exact .ok hs
  · rw [if_neg hid, if_neg hid]
    exact .error _

theorem alike_simIdentity {c : Client} (houtcome : c.cipher.OutcomeByLength)
    (hlog : c.cipher.LogByLength) (network : NetworkMethod) {provider provider' : Provider σ}
    {id : SubscriptionId} (h : provider.SameButImsi provider' id) :
    Traced.Alike (fun _ _ => True) (simIdentity c provider id network)
      (simIdentity c provider' id network) := by
  have hsubscriber := alike_subscriber h
  rw [simIdentity, simIdentity, h.key_eq]
  -- From here on only the two subscribers matter, not the phones they came from.
  generalize subscriber provider id = found, subscriber provider' id = found' at hsubscriber
  cases hsubscriber with
  | error fault => exact .pure (.error fault)
  | @ok s s' hs =>
    simp only [hs.ready_eq]
    by_cases hready : s'.ready = true
    · simp only [hready, not_true, if_false]
      apply (alike_clearIdentity id network.cardMethod hs).bind
      · intro identity identity' hlength
        exact alike_withEncrypted houtcome hlog id (provider'.key id) _ hlength
      · intro fault
        exact .pure (.error fault)
    · simp only [hready, Bool.false_eq_true, not_false_eq_true, if_true]
      exact .of_error rfl

/-- Two phones that differ in the IMSI of a subscription only, both IMSIs digits of one
length, and any cipher whose success and fault follow from the key and the length of the
plaintext: the client gives an identity in both runs or reports one fault, and the library
logs the same in both, at every level. So does the cipher where its own log follows from
key and length, as that of the library does. -/
theorem imsi_reaches_no_log (c : Client) (hcipher : c.cipher.OutcomeByLength)
    (network : NetworkMethod) {provider provider' : Provider σ} {id : SubscriptionId}
    (h : provider.SameButImsi provider' id) :
    let run := simIdentity c provider id network
    let run' := simIdentity c provider' id network
    ((∃ r r', run.value = .ok r ∧ run'.value = .ok r') ∨
      ∃ fault, run.value = .error fault ∧ run'.value = .error fault) ∧
    (simIdentity c.quiet provider id network).events =
      (simIdentity c.quiet provider' id network).events ∧
    (c.cipher.LogByLength → run.events = run'.events) := by
  intro run run'
  have hquiet := alike_simIdentity (c := c.quiet) (Cipher.outcomeByLength_quiet hcipher)
    (Cipher.logByLength_quiet c.cipher) network h
  refine ⟨?_, hquiet.events_eq, ?_⟩
  · have hvalue := hquiet.value
    rw [simIdentity_value_quiet, simIdentity_value_quiet] at hvalue
    exact hvalue.both
  · intro hlog
    exact (alike_simIdentity hcipher hlog network h).events_eq

/-- Two IMSIs whose realm is cut out of them make different identities; under a key that is
too short for them, they are refused for one fault. The logs are the same. -/
theorem two_imsis_leave_one_log :
    let id : SubscriptionId := { value := 5 }
    let provider (imsi : String) : Provider Unit :=
      { subscriber := fun other => if other = id then some { imsi := imsi, ready := true } else none
        key := fun _ => .ok (some { key := { modulus := 65537, exponent := 3 } })
        card := fun _ _ _ => (none, ()) }
    let run (cipher : Cipher) (imsi : String) :=
      simIdentity { cipher := cipher } (provider imsi) id { outer := .aka }
    let clear (imsi : String) := (run .echo imsi).value.map IdentityPair.identity
    (clear "001010123456789" = .ok "0001010123456789@wlan.mnc010.mcc001.3gppnetwork.org" ∧
      clear "310150987654321" = .ok "0310150987654321@wlan.mnc150.mcc310.3gppnetwork.org" ∧
      (run .echo "001010123456789").events = (run .echo "310150987654321").events) ∧
    (run (Oaep.cipher []) "001010123456789").value =
      .error (.identity (.encryptionFailed Oaep.tooLong)) ∧
    (run (Oaep.cipher []) "001010123456789").events =
      (run (Oaep.cipher []) "310150987654321").events := by
  intro id provider run clear
  have hdigits : DigitsOfOneLength "001010123456789" "310150987654321" :=
    ⟨List.all_eq_true.mp (by decide), List.all_eq_true.mp (by decide), by decide⟩
  have hprovider : (provider "001010123456789").SameButImsi (provider "310150987654321") id :=
    ⟨.some ⟨hdigits, rfl, rfl⟩, rfl⟩
  have hecho : Cipher.echo.OutcomeByLength := fun _ _ _ _ => .ok trivial
  refine ⟨⟨rfl, rfl, ?_⟩, rfl, ?_⟩
  · apply (imsi_reaches_no_log _ hecho _ hprovider).2.2
    intro key p p' hlength
    rfl
  · exact (imsi_reaches_no_log _ (Oaep.outcomeByLength_cipher []) _ hprovider).2.2
      (Oaep.logByLength_cipher [])

end Client

end CarrierAuth
