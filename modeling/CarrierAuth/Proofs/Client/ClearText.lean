import CarrierAuth.Client
import CarrierAuth.Proofs.Identity.Permanent

/-
  Identities on the air — when a client gives a permanent identity, and that it
  never gives one to send in clear text where encryption is called for.

  There are two reasons to encrypt: the carrier requires it, or the phone has a
  key. Each must lead to the encrypted form or to a fault.

  What is proved:
    1. `simIdentity_decidedBy` — the conditions for an identity, in the order in
       which they are reported: the subscription, the card, the identity in clear
       text, the look-up of the key, the cover.
    2. `simIdentity_eq_ok_iff` — which identity is given when all of them hold.
    3. `simIdentity_never_falls_back` — both, with what they mean for the identity
       that is sent first.
-/
namespace CarrierAuth.Client

variable {σ : Type}

/-! ## The subscriber -/

def subscriberConditions (provider : Provider σ) (id : SubscriptionId) :
    List (Outcome.Condition ClientFault) :=
  [⟨0 ≤ id.value, (· = .invalidSubscription id)⟩,
   ⟨∃ s, provider.subscriber id = some s, (· = .notReady id)⟩]

theorem subscriber_eq_ok_iff {provider : Provider σ} {id : SubscriptionId} {s : Subscriber} :
    subscriber provider id = .ok s ↔ 0 ≤ id.value ∧ provider.subscriber id = some s := by
  rw [subscriber, ← SubscriptionId.isValid_iff]
  by_cases hid : id.isValid = true
  · rw [if_pos hid]
    cases provider.subscriber id <;> simp [hid]
  · rw [if_neg hid]
    simp [hid]

theorem subscriber_decidedBy (provider : Provider σ) (id : SubscriptionId) :
    Outcome.DecidedBy (subscriberConditions provider id) (subscriber provider id) := by
  refine .cons (fun hid => ?_) (fun hid => ?_)
  · refine .cons (fun hknown => ?_) (fun hunknown => ?_)
    · obtain ⟨s, hs⟩ := hknown
      rw [subscriber_eq_ok_iff.mpr ⟨hid, hs⟩]
      exact .pure s
    · rw [subscriber, if_pos (SubscriptionId.isValid_iff.mpr hid)]
      cases hs : provider.subscriber id with
      | none => exact ⟨_, rfl, fun _ => Iff.rfl⟩
      | some s => exact absurd ⟨s, hs⟩ hunknown
  · rw [subscriber, if_neg (mt SubscriptionId.isValid_iff.mp hid)]
    exact ⟨_, rfl, fun _ => Iff.rfl⟩

/-! ## The cover -/

/-- The conditions for what becomes of an identity in clear text: the key can be
looked up, and either there is one and the cipher does its work with it, or there is
none and the carrier does not ask for encryption. -/
def coverConditions (c : Client) (id : SubscriptionId)
    (key : Except String (Option CarrierKey)) (clear : Except IdentityFault String) :
    List (Outcome.Condition ClientFault) :=
  [⟨∃ found, key = .ok found,
    fun fault => ∃ reason, key = .error reason ∧ fault = .keyUnavailable reason⟩,
   ⟨(∃ k identity ciphertext, key = .ok (some k) ∧ clear = .ok identity ∧
        (c.cipher k.key (octets identity)).value = .ok ciphertext) ∨
      (key = .ok none ∧ c.requiresEncryption id = false),
    fun fault =>
      (∃ k identity reason, key = .ok (some k) ∧ clear = .ok identity ∧
        (c.cipher k.key (octets identity)).value = .error reason ∧
        fault = .identity (.encryptionFailed reason)) ∨
      (key = .ok none ∧ fault = .keyUnavailable ("no key for subscription " ++ id.display))⟩]

/-- Whether a pair holds the encrypted form that is called for. -/
def Covered (c : Client) (id : SubscriptionId) (key : Except String (Option CarrierKey))
    (r : IdentityPair) : Prop :=
  (∃ k ciphertext, key = .ok (some k) ∧
    (c.cipher k.key (octets r.identity)).value = .ok ciphertext ∧
    r.encrypted = some (Identity.encryptedText ciphertext k.id)) ∨
  (key = .ok none ∧ c.requiresEncryption id = false ∧ r.encrypted = none)

theorem withEncrypted_key (c : Client) (id : SubscriptionId) (k : CarrierKey)
    (method : EapMethod) (identity : String) :
    (withEncrypted c id (.ok (some k)) method identity).value =
      ((c.cipher k.key (octets identity)).value.map fun ciphertext =>
        (⟨identity, some (Identity.encryptedText ciphertext k.id)⟩ : IdentityPair)).mapError
          fun reason => .identity (.encryptionFailed reason) := by
  rw [withEncrypted, Traced.value_bind, Identity.encrypted_value]
  cases (c.cipher k.key (octets identity)).value <;> rfl

theorem withEncrypted_none (c : Client) (id : SubscriptionId) (method : EapMethod)
    (identity : String) :
    (withEncrypted c id (.ok none) method identity).value =
      if c.requiresEncryption id then
        .error (.keyUnavailable ("no key for subscription " ++ id.display))
      else .ok ⟨identity, none⟩ := by
  rw [withEncrypted]
  by_cases hrequired : c.requiresEncryption id = true
  · rw [if_pos hrequired, if_pos hrequired]
    rfl
  · rw [if_neg hrequired, if_neg hrequired]
    rfl

theorem withEncrypted_eq_ok_iff {c : Client} {id : SubscriptionId}
    {key : Except String (Option CarrierKey)} {method : EapMethod} {identity : String}
    {r : IdentityPair} :
    (withEncrypted c id key method identity).value = .ok r ↔
      r.identity = identity ∧ Covered c id key r := by
  obtain ⟨clear, encrypted⟩ := r
  match key with
  | .error reason => simp [withEncrypted, Covered]
  | .ok none =>
    rw [withEncrypted_none]
    by_cases hrequired : c.requiresEncryption id = true
    · simp [hrequired, Covered]
    · simp [hrequired, Covered, eq_comm]
  | .ok (some k) =>
    rw [withEncrypted_key, Outcome.mapError_eq_ok_iff, Outcome.map_eq_ok_iff]
    refine ⟨?_, ?_⟩
    · intro h
      obtain ⟨ciphertext, hcipher, hpair⟩ := h
      obtain ⟨rfl, rfl⟩ := IdentityPair.mk.inj hpair
      exact ⟨rfl, Or.inl ⟨k, ciphertext, rfl, hcipher, rfl⟩⟩
    · intro h
      obtain ⟨rfl, hcover⟩ := h
      rcases hcover with ⟨k', ciphertext, hkey, hcipher, hencrypted⟩ | ⟨hkey, -⟩
      · obtain rfl := Option.some.inj (Except.ok.inj hkey)
        exact ⟨ciphertext, hcipher, by rw [← hencrypted]⟩
      · cases hkey

theorem withEncrypted_decidedBy (c : Client) (id : SubscriptionId)
    (key : Except String (Option CarrierKey)) (method : EapMethod) {identity : String}
    {clear : Except IdentityFault String} (hclear : clear = .ok identity) :
    Outcome.DecidedBy (coverConditions c id key clear)
      (withEncrypted c id key method identity).value := by
  subst hclear
  match key with
  | .error reason =>
    refine .cons (fun hfound => ?_) (fun _ => ?_)
    · obtain ⟨found, hfound⟩ := hfound
      cases hfound
    · refine ⟨.keyUnavailable reason, rfl, fun fault => ?_⟩
      simp
  | .ok none =>
    rw [withEncrypted_none]
    -- The look-up cannot fail here, so only the cover is left to decide.
    refine .cons (fun _ => .cons (fun hcover => ?_) (fun hbare => ?_)) (fun hlost => ?_)
    · have hrequired : c.requiresEncryption id = false := by simpa using hcover
      rw [hrequired]
      exact .pure _
    · have hrequired : c.requiresEncryption id = true := by simpa using hbare
      rw [if_pos hrequired]
      exact ⟨_, rfl, fun fault => by simp⟩
    · exact absurd ⟨none, rfl⟩ hlost
  | .ok (some k) =>
    rw [withEncrypted_key]
    refine .cons (fun _ => .cons (fun hcover => ?_) (fun hbare => ?_)) (fun hlost => ?_)
    · obtain ⟨ciphertext, hcipher⟩ :
          ∃ ciphertext, (c.cipher k.key (octets identity)).value = .ok ciphertext := by
        simpa using hcover
      rw [hcipher]
      exact .pure _
    · cases hcipher : (c.cipher k.key (octets identity)).value with
      | ok ciphertext =>
        exact absurd (Or.inl ⟨k, identity, ciphertext, rfl, rfl, hcipher⟩) hbare
      | error reason =>
        refine ⟨_, rfl, fun fault => ?_⟩
        simp [hcipher]
    · exact absurd ⟨some k, rfl⟩ hlost

/-! ## The identity -/

/-- The conditions for a permanent identity. What they say about the subscriber
comes into play only once there is one. -/
def simConditions (c : Client) (provider : Provider σ) (id : SubscriptionId)
    (network : NetworkMethod) : List (Outcome.Condition ClientFault) :=
  let s := (provider.subscriber id).getD {}
  subscriberConditions provider id ++
    (⟨s.ready = true, (· = .notReady id)⟩ ::
      ((Identity.conditions network.cardMethod s.imsi s.operatorCode).map
          (.reword .identity) ++
        coverConditions c id (provider.key id)
          (Identity.permanent network.cardMethod s.imsi s.operatorCode).value))

theorem clearIdentity_value {id : SubscriptionId} {s : Subscriber} {method : EapMethod}
    (hready : s.ready = true) :
    (clearIdentity id s method).value =
      (Identity.permanent method s.imsi s.operatorCode).value.mapError .identity := by
  rw [clearIdentity, Traced.value_bind, Subscriber.operator?_getD hready]
  cases (Identity.permanent method s.imsi s.operatorCode).value <;> rfl

theorem simIdentity_value (c : Client) (provider : Provider σ) (id : SubscriptionId)
    (network : NetworkMethod) :
    (simIdentity c provider id network).value = (do
      let s ← subscriber provider id
      if s.ready then
        let identity ←
          (Identity.permanent network.cardMethod s.imsi s.operatorCode).value.mapError .identity
        (withEncrypted c id (provider.key id) network.cardMethod identity).value
      else .error (.notReady id)) := by
  rw [simIdentity]
  cases subscriber provider id with
  | error fault => rfl
  | ok s =>
    show _ = if s.ready = true then _ else _
    by_cases hready : s.ready = true
    · rw [if_pos hready, ← clearIdentity_value hready]
      simp only [hready, not_true, if_false, Traced.value_bind]
      cases (clearIdentity id s network.cardMethod).value <;> rfl
    · rw [if_neg hready]
      simp only [hready, Bool.false_eq_true, not_false_eq_true, if_true]
      rfl

theorem simIdentity_decidedBy (c : Client) (provider : Provider σ) (id : SubscriptionId)
    (network : NetworkMethod) :
    Outcome.DecidedBy (simConditions c provider id network)
      (simIdentity c provider id network).value := by
  rw [simIdentity_value]
  refine (subscriber_decidedBy provider id).bind fun s hs => ?_
  rw [(subscriber_eq_ok_iff.mp hs).2, Option.getD_some]
  refine .cons (fun (hready : s.ready = true) => ?_) (fun (hready : ¬ s.ready = true) => ?_)
  · rw [if_pos hready]
    have hconditions := Identity.permanent_decidedBy network.cardMethod s.imsi s.operatorCode
    refine (hconditions.mapError ClientFault.identity).bind fun identity hclear => ?_
    exact withEncrypted_decidedBy c id (provider.key id) _ (Outcome.mapError_eq_ok_iff.mp hclear)
  · rw [if_neg hready]
    exact ⟨_, rfl, fun _ => Iff.rfl⟩

theorem simIdentity_eq_ok_iff {c : Client} {provider : Provider σ} {id : SubscriptionId}
    {network : NetworkMethod} {r : IdentityPair} :
    (simIdentity c provider id network).value = .ok r ↔
      0 ≤ id.value ∧ ∃ s, provider.subscriber id = some s ∧ s.ready = true ∧
        (Identity.permanent network.cardMethod s.imsi s.operatorCode).value = .ok r.identity ∧
        Covered c id (provider.key id) r := by
  rw [simIdentity_value, Outcome.bind_eq_ok_iff]
  refine ⟨?_, ?_⟩
  · intro h
    obtain ⟨s, hs, hrest⟩ := h
    obtain ⟨hid, hknown⟩ := subscriber_eq_ok_iff.mp hs
    by_cases hready : s.ready = true
    · rw [if_pos hready, Outcome.bind_eq_ok_iff] at hrest
      obtain ⟨identity, hclear, hcover⟩ := hrest
      obtain ⟨rfl, hcovered⟩ := withEncrypted_eq_ok_iff.mp hcover
      exact ⟨hid, s, hknown, hready, Outcome.mapError_eq_ok_iff.mp hclear, hcovered⟩
    · rw [if_neg hready] at hrest
      cases hrest
  · intro h
    obtain ⟨hid, s, hknown, hready, hclear, hcovered⟩ := h
    refine ⟨s, subscriber_eq_ok_iff.mpr ⟨hid, hknown⟩, ?_⟩
    rw [if_pos hready, Outcome.bind_eq_ok_iff]
    exact ⟨r.identity, Outcome.mapError_eq_ok_iff.mpr hclear,
      withEncrypted_eq_ok_iff.mpr ⟨rfl, hcovered⟩⟩

/-! ## What is sent first -/

theorem isSome_encrypted_iff {c : Client} {id : SubscriptionId}
    {key : Except String (Option CarrierKey)} {r : IdentityPair} (h : Covered c id key r) :
    r.encrypted.isSome = true ↔ ∃ k, key = .ok (some k) := by
  rcases h with ⟨k, ciphertext, hkey, -, hencrypted⟩ | ⟨hkey, -, hencrypted⟩
  · simp [hkey, hencrypted]
  · simp [hkey, hencrypted]

theorem toList_of_encrypted {c : Client} {id : SubscriptionId}
    {key : Except String (Option CarrierKey)} {r : IdentityPair} (h : Covered c id key r)
    {e : String} (he : r.encrypted = some e) : ∃ rest, e.toList = '\x00' :: rest := by
  rcases h with ⟨k, ciphertext, -, -, hencrypted⟩ | ⟨-, -, hencrypted⟩
  · rw [hencrypted] at he
    obtain rfl := Option.some.inj he
    exact Identity.toList_encryptedText ciphertext k.id
  · rw [hencrypted] at he
    cases he

theorem encrypted_of_required {c : Client} {id : SubscriptionId}
    {key : Except String (Option CarrierKey)} {r : IdentityPair} (h : Covered c id key r)
    (hrequired : c.requiresEncryption id = true) : r.encrypted = some r.preferred := by
  rcases h with ⟨k, ciphertext, -, -, hencrypted⟩ | ⟨-, hfree, -⟩
  · rw [IdentityPair.preferred, hencrypted, Option.getD_some]
  · rw [hrequired] at hfree
    cases hfree

/-- A client gives an identity exactly when all conditions hold, and otherwise the
fault of the first that does not. The encrypted form is there whenever there is a
key, and where the carrier requires encryption nothing else is sent first. -/
theorem simIdentity_never_falls_back (c : Client) (provider : Provider σ) (id : SubscriptionId)
    (network : NetworkMethod) :
    let run := (simIdentity c provider id network).value
    (∀ r, run = .ok r ↔
      0 ≤ id.value ∧ ∃ s, provider.subscriber id = some s ∧ s.ready = true ∧ s.imsi ≠ "" ∧
        (∃ digit op,
          (network.cardMethod, digit) ∈
            [(EapMethod.aka, '0'), (EapMethod.sim, '1'), (EapMethod.akaPrime, '6')] ∧
          Identity.IsHome s.imsi s.operatorCode op ∧
          r.identity = String.singleton digit ++ s.imsi ++ "@" ++ op.realm) ∧
        ((∃ k ciphertext, provider.key id = .ok (some k) ∧
            (c.cipher k.key (octets r.identity)).value = .ok ciphertext ∧
            r.encrypted = some (Identity.encryptedText ciphertext k.id)) ∨
          (provider.key id = .ok none ∧ c.requiresEncryption id = false ∧ r.encrypted = none))) ∧
    Outcome.DecidedBy (simConditions c provider id network) run ∧
    (∀ r, run = .ok r →
      (∃ s, provider.subscriber id = some s ∧
        (Identity.permanent network.cardMethod s.imsi s.operatorCode).value =
          .ok r.identity) ∧
      (∃ digit ∈ ['0', '1', '6'], ∃ rest, r.identity.toList = digit :: rest) ∧
      (r.encrypted.isSome = true ↔ ∃ k, provider.key id = .ok (some k)) ∧
      ∀ e, r.encrypted = some e → ∃ rest, e.toList = '\x00' :: rest) ∧
    (c.requiresEncryption id = true → ∀ r, run = .ok r →
      r.encrypted = some r.preferred ∧ r.preferred ≠ r.identity) := by
  intro run
  refine ⟨fun r => ?_, simIdentity_decidedBy c provider id network, fun r hr => ?_,
    fun hrequired r hr => ?_⟩
  · rw [simIdentity_eq_ok_iff]
    simp only [Identity.permanent_eq_ok_iff, Covered, and_assoc, Identity.digits]
  · obtain ⟨-, s, hknown, -, hclear, hcovered⟩ := simIdentity_eq_ok_iff.mp hr
    obtain ⟨digit, rest, hdigit, hlist⟩ := Identity.toList_of_permanent hclear
    refine ⟨⟨s, hknown, hclear⟩, ⟨digit, ?_, rest, hlist⟩, isSome_encrypted_iff hcovered,
      fun e he => toList_of_encrypted hcovered he⟩
    show digit ∈ Identity.digits.map Prod.snd
    exact List.mem_map_of_mem hdigit
  · obtain ⟨-, s, -, -, hclear, hcovered⟩ := simIdentity_eq_ok_iff.mp hr
    have hencrypted := encrypted_of_required hcovered hrequired
    refine ⟨hencrypted, fun hsame => ?_⟩
    -- One starts with a digit, the other with the mark.
    obtain ⟨digit, rest, hdigit, hlist⟩ := Identity.toList_of_permanent hclear
    obtain ⟨behind, hmark⟩ := toList_of_encrypted hcovered hencrypted
    rw [hsame, hlist] at hmark
    obtain rfl := (List.cons.inj hmark).1
    simp [Identity.digits] at hdigit

end CarrierAuth.Client
