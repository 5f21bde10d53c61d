import CarrierAuth.Proofs.Client.ClearText

/-
  One realm for a subscriber — the permanent identity looks for the operator in one way,
  the anonymous identity and the pseudonym in another, and the three agree.

  What is proved:
    1. `anonymousIdentity_eq`, `decoratePseudonym_eq` — the latter two are the work of the
       same step, which gives the subscriber's operator (`liveOperator`).
    2. `liveOperator_of_simIdentity` — with an operator code, that step gives the operator
       whose realm the permanent identity carries.
    3. `identities_share_realm` — the three fail together where the card is not ready, and
       name one realm where the permanent identity can be built.
-/
namespace CarrierAuth.Client

variable {σ : Type}

/-- The operator of a subscription whose card is ready. -/
def liveOperator (provider : Provider σ) (id : SubscriptionId) : Except ClientFault Operator := do
  operator id (← subscriber provider id)

theorem anonymousIdentity_eq (c : Client) (provider : Provider σ) (id : SubscriptionId)
    (network : NetworkMethod) :
    anonymousIdentity c provider id network = (liveOperator provider id).map fun op =>
      Identity.anonymous network.outer op (c.settings.carrier id).digitEnabled := by
  rw [anonymousIdentity, liveOperator]
  cases subscriber provider id with
  | error fault => rfl
  | ok s =>
    show (operator id s >>= fun op => _) = (operator id s).map _
    cases operator id s <;> rfl

theorem decoratePseudonym_eq (provider : Provider σ) (id : SubscriptionId) {p : String}
    (hp : p ≠ "") (hrealm : Identity.hasRealm p = false) :
    decoratePseudonym provider id p =
      (liveOperator provider id).map fun op => some (p ++ "@" ++ op.realm) := by
  rw [decoratePseudonym, liveOperator, if_neg hp, if_neg (by simp [hrealm])]
  cases subscriber provider id with
  | error fault => rfl
  | ok s =>
    show (operator id s >>= fun op => _) = (operator id s).map _
    cases operator id s with
    | error fault => rfl
    | ok op =>
      show Except.ok (Identity.decorate? p op) = _
      rw [Identity.decorate?, if_neg hp, if_neg (by simp [hrealm])]
      rfl

/-! ## The operator -/

theorem liveOperator_of_unready {provider : Provider σ} {id : SubscriptionId} (hid : 0 ≤ id.value)
    (hunready : ∀ s, provider.subscriber id = some s → s.ready = false) :
    liveOperator provider id = .error (.notReady id) := by
  rw [liveOperator, subscriber, if_pos (SubscriptionId.isValid_iff.mpr hid)]
  cases hs : provider.subscriber id with
  | none => rfl
  | some s =>
    show operator id s = _
    rw [operator, if_pos (by simp [hunready s hs])]

theorem liveOperator_of_ready {provider : Provider σ} {id : SubscriptionId} {s : Subscriber}
    (hid : 0 ≤ id.value) (hs : provider.subscriber id = some s) (hready : s.ready = true) :
    liveOperator provider id =
      if s.operatorCode = "" then .error (.missingOperator id)
      else (Operator.ofCode s.operatorCode).mapError .identity := by
  rw [liveOperator, subscriber_eq_ok_iff.mpr ⟨hid, hs⟩]
  show operator id s = _
  rw [operator, if_neg (by simp [hready])]

/-- The permanent identity is made of the digit, the IMSI and the realm of the operator
that the other identities use. -/
theorem liveOperator_of_simIdentity {c : Client} {provider : Provider σ} {id : SubscriptionId}
    {network : NetworkMethod} {s : Subscriber} (hs : provider.subscriber id = some s)
    (hcode : s.operatorCode ≠ "") {r : IdentityPair}
    (h : (simIdentity c provider id network).value = .ok r) :
    ∃ digit op, (network.cardMethod, digit) ∈ Identity.digits ∧
      r.identity = String.singleton digit ++ s.imsi ++ "@" ++ op.realm ∧
      liveOperator provider id = .ok op := by
  obtain ⟨hid, s', hs', hready, hclear, -⟩ := simIdentity_eq_ok_iff.mp h
  obtain rfl : s = s' := Option.some.inj (hs.symm.trans hs')
  obtain ⟨-, digit, op, hdigit, hhome, hidentity⟩ := Identity.permanent_eq_ok_iff.mp hclear
  refine ⟨digit, op, hdigit, hidentity, ?_⟩
  rw [liveOperator_of_ready hid hs hready, if_neg hcode, Operator.ofCode,
    (Identity.isHome_of_code hcode).mp hhome]
  rfl

theorem simIdentity_of_unready {c : Client} {provider : Provider σ} {id : SubscriptionId}
    {network : NetworkMethod} (hid : 0 ≤ id.value)
    (hunready : ∀ s, provider.subscriber id = some s → s.ready = false) :
    (simIdentity c provider id network).value = .error (.notReady id) := by
  rw [simIdentity_value, subscriber, if_pos (SubscriptionId.isValid_iff.mpr hid)]
  cases hs : provider.subscriber id with
  | none => rfl
  | some s =>
    show (if s.ready = true then _ else _) = _
    rw [if_neg (by simp [hunready s hs])]

/-! ## The identities -/

/-- What leads an anonymous identity is nothing or one digit. -/
theorem anonymous_eq (method : EapMethod) (op : Operator) (withDigit : Bool) :
    ∃ lead ∈ ["", "0", "1", "6"],
      Identity.anonymous method op withDigit = lead ++ "anonymous@" ++ op.realm := by
  refine ⟨if withDigit then (method.leadingDigit?.map String.singleton).getD "" else "", ?_, ?_⟩
  · cases withDigit <;> cases method <;> decide
  · have huser : "anonymous@" = "anonymous" ++ "@" := by decide
    rw [Identity.anonymous, Identity.anonymousUser, huser, ← String.append_assoc]

/-- The permanent identity, the anonymous identity and a decorated pseudonym of one
subscription agree on the realm, whatever networks they are for: where the card is not
ready all three say so, and where it is and has an operator, the latter two can be had
together, and the first one only with them and with their realm. Without an operator the
latter two are refused. -/
theorem identities_share_realm (c : Client) (provider : Provider σ) (id : SubscriptionId)
    (n₁ n₂ : NetworkMethod) (p : String) (hid : 0 ≤ id.value) (hp : p ≠ "")
    (hrealm : '@' ∉ p.toList) :
    let permanent := (simIdentity c provider id n₁).value
    let anonymous := anonymousIdentity c provider id n₂
    let decorated := decoratePseudonym provider id p
    ((∀ s, provider.subscriber id = some s → s.ready = false) →
      permanent = .error (.notReady id) ∧ anonymous = .error (.notReady id) ∧
        decorated = .error (.notReady id)) ∧
    (∀ s, provider.subscriber id = some s → s.ready = true → s.operatorCode ≠ "" →
      ((∃ a, anonymous = .ok a) ↔ ∃ d, decorated = .ok d) ∧
      ∀ i, permanent = .ok i → ∃ realm,
        (∃ digit ∈ ['0', '1', '6'],
          i.identity = String.singleton digit ++ s.imsi ++ "@" ++ realm) ∧
        (∃ lead ∈ ["", "0", "1", "6"], anonymous = .ok (lead ++ "anonymous@" ++ realm)) ∧
        decorated = .ok (some (p ++ "@" ++ realm))) ∧
    (∀ s, provider.subscriber id = some s → s.ready = true → s.operatorCode = "" →
      anonymous = .error (.missingOperator id) ∧ decorated = .error (.missingOperator id)) := by
  intro permanent anonymous decorated
  have hplain : Identity.hasRealm p = false := by simpa [Identity.hasRealm] using hrealm
  have hanonymous : anonymous = _ := anonymousIdentity_eq c provider id n₂
  have hdecorated : decorated = _ := decoratePseudonym_eq provider id hp hplain
  refine ⟨fun hunready => ?_, fun s hs hready hcode => ⟨?_, fun i hi => ?_⟩,
    fun s hs hready hcode => ?_⟩
  · rw [hanonymous, hdecorated, liveOperator_of_unready hid hunready]
    exact ⟨simIdentity_of_unready hid hunready, rfl, rfl⟩
  · rw [hanonymous, hdecorated, Outcome.exists_map_eq_ok_iff, Outcome.exists_map_eq_ok_iff]
  · obtain ⟨digit, op, hdigit, hidentity, hop⟩ := liveOperator_of_simIdentity hs hcode hi
    obtain ⟨lead, hlead, htext⟩ :=
      anonymous_eq n₂.outer op (c.settings.carrier id).digitEnabled
    rw [hanonymous, hdecorated, hop]
    refine ⟨op.realm, ⟨digit, ?_, hidentity⟩, ⟨lead, hlead, congrArg Except.ok htext⟩, rfl⟩
    show digit ∈ Identity.digits.map Prod.snd
    exact List.mem_map_of_mem hdigit
  · rw [hanonymous, hdecorated, liveOperator_of_ready hid hs hready, if_pos hcode]
    exact ⟨rfl, rfl⟩

/-- An operator code with two digits for the network: the realm is filled up with a zero
in all three identities. -/
theorem two_digit_operator_shares_realm :
    let c : Client := { cipher := .echo }
    let s : Subscriber :=
      { imsi := "310150123456789", operatorCode := "31015", ready := true }
    let id : SubscriptionId := { value := 3 }
    let provider : Provider Unit :=
      { subscriber := fun other => if other = id then some s else none
        key := fun _ => .ok none
        card := fun _ state _ => (none, state) }
    let i : IdentityPair :=
      { identity := "1310150123456789@wlan.mnc015.mcc310.3gppnetwork.org" }
    0 ≤ id.value ∧ "2fGh" ≠ "" ∧ '@' ∉ "2fGh".toList ∧ s.operatorCode ≠ "" ∧
    (simIdentity c provider id { outer := .sim }).value = .ok i ∧
    ∃ realm,
      (∃ digit ∈ ['0', '1', '6'],
        i.identity = String.singleton digit ++ s.imsi ++ "@" ++ realm) ∧
      (∃ lead ∈ ["", "0", "1", "6"],
        anonymousIdentity c provider id { outer := .aka } = .ok (lead ++ "anonymous@" ++ realm)) ∧
      decoratePseudonym provider id "2fGh" = .ok (some ("2fGh" ++ "@" ++ realm)) := by
  intro c s id provider i
  have hid : 0 ≤ id.value := by decide
  have hp : "2fGh" ≠ "" := by decide
  have hrealm : '@' ∉ "2fGh".toList := by decide
  have hcode : s.operatorCode ≠ "" := by decide
  have hpermanent : (simIdentity c provider id { outer := .sim }).value = .ok i :=
    Outcome.toOption_eq_some_iff.mp (by decide)
  obtain ⟨-, hshared, -⟩ :=
    identities_share_realm c provider id { outer := .sim } { outer := .aka } "2fGh" hid hp hrealm
  exact ⟨hid, hp, hrealm, hcode, hpermanent, (hshared s rfl rfl hcode).2 i hpermanent⟩

end CarrierAuth.Client
