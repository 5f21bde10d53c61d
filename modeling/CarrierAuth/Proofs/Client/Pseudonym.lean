import CarrierAuth.Device
import CarrierAuth.Proofs.Client.SharedRealm

/-
  Pseudonyms — which of them the client decorates, and that it decorates none twice.

  The client looks at a pseudonym before it looks at the phone, and what builds identities
  looks at it again. The two agree: a pseudonym that needs no realm (`Settled`) is answered as
  it would be with any operator, and what comes out of decorating is settled.

  What is proved:
    1. `decoratePseudonym_of_settled` — a settled pseudonym gets the same answer from every
       phone, the one that is built for it with any operator.
    2. `forall_provider_eq_iff` — besides the settled ones only those of no valid subscription
       are answered without the phone.
    3. `realm_of_decoratePseudonym` — what the client gives names a realm, and starts with
       what the client was given.
    4. `pseudonym_decorated_once` — so nothing becomes of it when it is decorated again, for
       whatever subscription and by whatever client.
-/
namespace CarrierAuth

namespace Identity

/-- Whether a pseudonym needs no realm: it is empty, or names one already. -/
def Settled (p : String) : Prop := p = "" ∨ '@' ∈ p.toList

theorem hasRealm_iff {p : String} : hasRealm p = true ↔ '@' ∈ p.toList :=
  List.contains_iff_mem

theorem not_settled_iff {p : String} : ¬ Settled p ↔ p ≠ "" ∧ hasRealm p = false := by
  rw [Settled, not_or, ← hasRealm_iff, Bool.not_eq_true]

theorem ne_empty_of_realm {p : String} (h : '@' ∈ p.toList) : p ≠ "" := by
  rintro rfl
  exact absurd h (by decide)

end Identity

namespace Client

open Identity (Settled decorate?)

variable {σ : Type} {id : SubscriptionId} {p : String}

/-! ## Without the phone -/

theorem decoratePseudonym_of_realm (h : '@' ∈ p.toList) (provider : Provider σ) :
    decoratePseudonym provider id p = .ok (some p) := by
  rw [decoratePseudonym, if_neg (Identity.ne_empty_of_realm h),
    if_pos (Identity.hasRealm_iff.mpr h)]

theorem decoratePseudonym_of_settled (h : Settled p) (provider : Provider σ) (op : Operator) :
    decoratePseudonym provider id p = .ok (decorate? p op) := by
  rcases h with rfl | hrealm
  · rfl
  · rw [decoratePseudonym_of_realm hrealm, decorate?,
      if_neg (Identity.ne_empty_of_realm hrealm), if_pos (Identity.hasRealm_iff.mpr hrealm)]

theorem liveOperator_of_invalid (hid : id.value < 0) (provider : Provider σ) :
    liveOperator provider id = .error (.invalidSubscription id) := by
  have hinvalid : ¬ id.isValid = true := by
    rw [SubscriptionId.isValid_iff]
    omega
  rw [liveOperator, subscriber, if_neg hinvalid]
  rfl

/-- Some phones refuse a subscription that is valid, and some know its operator. -/
theorem exists_liveOperator (hid : 0 ≤ id.value) :
    ∃ absent present : Provider σ, ∃ op, liveOperator absent id = .error (.notReady id) ∧
      liveOperator present id = .ok op := by
  let s : Subscriber := { operatorCode := "31015", ready := true }
  let absent : Provider σ :=
    { subscriber := fun _ => none, key := fun _ => .ok none, card := fun _ t _ => (none, t) }
  let present : Provider σ := { absent with subscriber := fun _ => some s }
  have hcode : Operator.ofCode? s.operatorCode = some ⟨"310", "15"⟩ := by decide
  refine ⟨absent, present, ⟨"310", "15"⟩, ?_, ?_⟩
  · exact liveOperator_of_unready hid (fun _ hs => nomatch hs)
  · rw [liveOperator_of_ready hid (s := s) rfl rfl, if_neg (by decide), Operator.ofCode, hcode]
    rfl

/-- The phone is asked about every other pseudonym: without the subscriber it is refused, and
with an operator it gets a realm. -/
theorem forall_provider_eq_iff :
    (∀ provider provider' : Provider σ,
      decoratePseudonym provider id p = decoratePseudonym provider' id p) ↔
        Settled p ∨ id.value < 0 := by
  refine ⟨fun hsame => ?_, ?_⟩
  · apply Classical.byContradiction
    intro hneither
    obtain ⟨hopen, hid⟩ := not_or.mp hneither
    obtain ⟨hp, hrealm⟩ := Identity.not_settled_iff.mp hopen
    obtain ⟨absent, present, op, habsent, hpresent⟩ :=
      exists_liveOperator (σ := σ) (Int.not_lt.mp hid)
    have hphones := hsame absent present
    rw [decoratePseudonym_eq absent id hp hrealm, decoratePseudonym_eq present id hp hrealm,
      habsent, hpresent] at hphones
    contradiction
  · intro hcases provider provider'
    by_cases hsettled : Settled p
    · rw [decoratePseudonym_of_settled hsettled provider ⟨"", ""⟩,
        decoratePseudonym_of_settled hsettled provider' ⟨"", ""⟩]
    · have hid : id.value < 0 := hcases.resolve_left hsettled
      obtain ⟨hp, hrealm⟩ := Identity.not_settled_iff.mp hsettled
      rw [decoratePseudonym_eq provider id hp hrealm, decoratePseudonym_eq provider' id hp hrealm,
        liveOperator_of_invalid hid, liveOperator_of_invalid hid]

/-! ## Decorated pseudonyms -/

theorem realm_of_decoratePseudonym {provider : Provider σ} {q : String}
    (h : decoratePseudonym provider id p = .ok (some q)) :
    '@' ∈ q.toList ∧ p.toList <+: q.toList := by
  by_cases hsettled : Settled p
  · rcases hsettled with rfl | hrealm
    · rw [decoratePseudonym, if_pos rfl] at h
      cases h
    · rw [decoratePseudonym_of_realm hrealm] at h
      obtain rfl := Option.some.inj (Except.ok.inj h)
      exact ⟨hrealm, List.prefix_rfl⟩
  · obtain ⟨hp, hrealm⟩ := Identity.not_settled_iff.mp hsettled
    rw [decoratePseudonym_eq provider id hp hrealm, Outcome.map_eq_ok_iff] at h
    obtain ⟨op, -, hq⟩ := h
    obtain rfl := Option.some.inj hq
    simp only [String.toList_append, List.append_assoc]
    exact ⟨by simp, List.prefix_append _ _⟩

/-- A settled pseudonym is answered without the phone, as it is built with any operator; only
where the subscription is not valid are others, too. What the client gives for a pseudonym
names a realm and starts with the pseudonym, and every client gives it again, for whatever
subscription of whatever phone. The client does nothing else in either case: it asks no card,
leaves the card as it is and logs nothing. -/
theorem pseudonym_decorated_once (p : String) :
    (Settled p → ∀ {σ : Type} (c : Client) (provider : Provider σ) (id : SubscriptionId)
        (op : Operator),
      decoratePseudonym provider id p = .ok (decorate? p op) ∧
      c.perform provider id (.decoratePseudonym p) = pure (.ok (.pseudonym (decorate? p op)))) ∧
    (∀ {σ : Type} (id : SubscriptionId),
      (∀ provider provider' : Provider σ,
        decoratePseudonym provider id p = decoratePseudonym provider' id p) ↔
          Settled p ∨ id.value < 0) ∧
    ∀ {σ : Type} (provider : Provider σ) (id : SubscriptionId) (q : String),
      decoratePseudonym provider id p = .ok (some q) →
        '@' ∈ q.toList ∧ p.toList <+: q.toList ∧
        ∀ {σ' : Type} (c : Client) (provider' : Provider σ') (id' : SubscriptionId),
          decoratePseudonym provider' id' q = .ok (some q) ∧
          c.perform provider' id' (.decoratePseudonym q) = pure (.ok (.pseudonym (some q))) := by
  have hperform {σ : Type} (c : Client) (provider : Provider σ) (id : SubscriptionId) {p : String}
      {answer : Option String} (h : decoratePseudonym provider id p = .ok answer) :
      c.perform provider id (.decoratePseudonym p) = pure (.ok (.pseudonym answer)) := by
    rw [perform, h]
    rfl
  refine ⟨fun hsettled σ c provider id op => ?_, fun id => forall_provider_eq_iff,
    fun provider id q hq => ?_⟩
  · have hanswer : decoratePseudonym provider id p = .ok (decorate? p op) :=
      decoratePseudonym_of_settled hsettled provider op
    exact ⟨hanswer, hperform c provider id hanswer⟩
  · obtain ⟨hrealm, hlead⟩ := realm_of_decoratePseudonym hq
    refine ⟨hrealm, hlead, fun c provider' id' => ?_⟩
    have hagain : decoratePseudonym provider' id' q = .ok (some q) :=
      decoratePseudonym_of_realm hrealm provider'
    exact ⟨hagain, hperform c provider' id' hagain⟩

/-- A pseudonym that was decorated for one subscription is given again for no valid one, by a
phone without a subscriber. -/
theorem decorated_pseudonym_needs_no_subscriber :
    let c : Client := { cipher := .echo }
    let s : Subscriber := { operatorCode := "31015", ready := true }
    let present : Provider Unit :=
      { subscriber := fun _ => some s, key := fun _ => .ok none, card := fun _ t _ => (none, t) }
    let absent : Provider Unit := { present with subscriber := fun _ => none }
    let q := "2fGh@wlan.mnc015.mcc310.3gppnetwork.org"
    decoratePseudonym present { value := 8 } "2fGh" = .ok (some q) ∧
    Settled q ∧
    decoratePseudonym absent .invalid q = .ok (some q) ∧
    c.perform absent .invalid (.decoratePseudonym q) =
      pure (.ok (.pseudonym (some q))) := by
  intro c s present absent q
  have hfirst : decoratePseudonym present { value := 8 } "2fGh" = .ok (some q) :=
    Outcome.toOption_eq_some_iff.mp (by decide)
  obtain ⟨-, -, hagain⟩ := pseudonym_decorated_once "2fGh"
  obtain ⟨hrealm, -, hgiven⟩ := hagain present { value := 8 } q hfirst
  exact ⟨hfirst, .inr hrealm, hgiven c absent .invalid⟩

end Client

end CarrierAuth
