import CarrierAuth.Proofs.Identity.Realm

/-
  Realms taken from IMSIs — when a realm can be found for an identity, and when the one
  found in the IMSI is the one that an operator code would give.

  Without an operator code the first six octets of the IMSI stand for it, as if every
  network code had three digits. An operator whose network code has two digits gets the
  same realm only where the zero that fills it up is what the IMSI holds anyway.

  What is proved:
    1. `Operator.ofCode?_eq_none_iff`, `Operator.ofImsi?_eq_none_iff` — when there is no
       operator to be found, in octets.
    2. `permanent_eq_error_iff` — the faults of a permanent identity in their order.
    3. `Operator.realm_take_eq_iff` — which digits behind the country code give the realm
       that the first three of them give.
    4. `permanent_of_front`, `permanent_take_eq_iff` — the IMSI in place of a code, and which
       of its digits give the same identity as a code.
    5. `imsi_stands_for_operator` — all together.
-/
namespace CarrierAuth

namespace Operator

/-! ## Where no operator is found -/

/-- Whether a code names no operator. -/
def NotInCode (code : String) : Prop := octetLength code < 3 ∨ Straddled 3 code.toList

/-- Whether an IMSI holds no operator. -/
def NotInImsi (imsi : String) : Prop :=
  octetLength imsi < 6 ∨ Straddled 3 imsi.toList ∨ Straddled 6 imsi.toList

theorem ofCode?_eq_none_iff {code : String} : ofCode? code = none ↔ NotInCode code := by
  rw [ofCode?, Option.map_eq_none_iff, cut_eq_none_iff]
  rfl

/-- There is an operator in an IMSI exactly when it can be cut after three and after six
octets. -/
theorem exists_ofImsi?_iff_cut {imsi : String} :
    (∃ op, ofImsi? imsi = some op) ↔ (∃ p, cut 3 imsi = some p) ∧ ∃ p, cut 6 imsi = some p := by
  simp only [ofImsi?_eq_some_iff]
  refine ⟨?_, ?_⟩
  · rintro ⟨op, rest, himsi, hmcc, hmnc⟩
    refine ⟨⟨(op.mcc, op.mnc ++ rest), ?_⟩, ⟨(op.mcc ++ op.mnc, rest), ?_⟩⟩
    · rw [String.append_assoc] at himsi
      exact cut_eq_some_iff.mpr ⟨himsi, hmcc⟩
    · rw [cut_eq_some_iff, octetLength_append, hmcc, hmnc]
      exact ⟨himsi, rfl⟩
  · rintro ⟨⟨⟨mcc, behind⟩, hthree⟩, ⟨⟨front, rest⟩, hsix⟩⟩
    obtain ⟨himsi, hmcc⟩ := cut_eq_some_iff.mp hthree
    obtain ⟨himsi', hfront⟩ := cut_eq_some_iff.mp hsix
    obtain ⟨mnc, rfl⟩ := exists_eq_append_of_le himsi himsi' (by omega)
    refine ⟨⟨mcc, mnc⟩, rest, himsi', hmcc, ?_⟩
    rw [octetLength_append] at hfront
    show octetLength mnc = 3
    omega

theorem ofImsi?_eq_none_iff {imsi : String} : ofImsi? imsi = none ↔ NotInImsi imsi := by
  have hcuts : (∃ op, ofImsi? imsi = some op) ↔ _ := exists_ofImsi?_iff_cut
  simp only [← Option.ne_none_iff_exists', ne_eq, cut_eq_none_iff] at hcuts
  have hshort : octetLength imsi < 3 → octetLength imsi < 6 := by omega
  unfold NotInImsi
  grind

/-! ## Digits -/

/-- The first digits give the realm of the first three when they are these three, or when
they are the first two and all three are zeros. -/
theorem realm_take_eq_iff (mcc : String) {ds : List Char}
    (hdigits : ∀ c ∈ ds, c.isDigit = true) (hthree : 3 ≤ ds.length) {n : Nat}
    (hn : n ≤ ds.length) :
    (⟨mcc, String.ofList (ds.take n)⟩ : Operator).realm =
        (⟨mcc, String.ofList (ds.take 3)⟩ : Operator).realm ↔
      n = 3 ∨ n = 2 ∧ ds.take 3 = ['0', '0', '0'] := by
  have hlength := octetLength_ofList_take hdigits hn
  have hlength' := octetLength_ofList_take hdigits hthree
  have hzeros : String.ofList (ds.take 3) = "0" ++ String.ofList (ds.take 2) ↔
      ds.take 3 = ['0', '0', '0'] := by
    rcases ds with - | ⟨a, - | ⟨b, - | ⟨c, rest⟩⟩⟩
    case cons.cons.cons =>
      simp only [← String.toList_inj, String.toList_append, String.toList_ofList]
      show [a, b, c] = ['0', a, b] ↔ [a, b, c] = ['0', '0', '0']
      simp only [List.cons.injEq, and_true]
      refine ⟨?_, ?_⟩
      · rintro ⟨rfl, rfl, rfl⟩
        exact ⟨rfl, rfl, rfl⟩
      · rintro ⟨rfl, rfl, rfl⟩
        exact ⟨rfl, rfl, rfl⟩
    all_goals simp at hthree
  rw [realm_eq_iff_of_mcc, paddedMnc_eq_iff]
  refine ⟨?_, ?_⟩
  · rintro (hsame | ⟨htwo, hfilled⟩ | ⟨htwo, -⟩)
    · left
      rw [← hlength, ← hlength']
      exact congrArg octetLength hsame
    · obtain rfl : n = 2 := hlength.symm.trans htwo
      exact .inr ⟨rfl, hzeros.mp hfilled⟩
    · exact absurd (hlength'.symm.trans htwo) (by decide)
  · rintro (rfl | ⟨rfl, hall⟩)
    · exact .inl rfl
    · exact .inr (.inl ⟨hlength, hzeros.mpr hall⟩)

end Operator

namespace Identity

/-! ## Faults -/

theorem exists_isHome_iff {imsi code : String} :
    (∃ op, IsHome imsi code op) ↔
      (code = "" → ¬ Operator.NotInImsi imsi) ∧ (code ≠ "" → ¬ Operator.NotInCode code) := by
  by_cases h : code = ""
  · subst h
    simp only [isHome_of_imsi, ← Option.ne_none_iff_exists', ne_eq, Operator.ofImsi?_eq_none_iff,
      not_true, true_implies, false_implies, and_true]
  · simp only [isHome_of_code h, ← Option.ne_none_iff_exists', ne_eq, Operator.ofCode?_eq_none_iff,
      h, not_false_eq_true, true_implies, false_implies, true_and]

theorem leadingDigit?_ne_none_iff {method : EapMethod} :
    method.leadingDigit? ≠ none ↔ method ∈ [EapMethod.sim, .aka, .akaPrime] := by
  simp only [← exists_mem_digits_iff, ← leadingDigit?_eq_some_iff, Option.ne_none_iff_exists']

/-- A permanent identity fails for the IMSI, then for the method, then for the realm. -/
theorem permanent_eq_error_iff {method : EapMethod} {imsi code : String} {fault : IdentityFault} :
    (permanent method imsi code).value = .error fault ↔
      imsi = "" ∧ fault = .missingImsi ∨
      imsi ≠ "" ∧ method.leadingDigit? = none ∧ fault = .unsupportedMethod method ∨
      imsi ≠ "" ∧ method.leadingDigit? ≠ none ∧ (¬ ∃ op, IsHome imsi code op) ∧
        fault = realmFault imsi code := by
  rw [(permanent_decidedBy method imsi code).error_iff]
  simp only [conditions, Outcome.FirstUnmet, ← leadingDigit?_ne_none_iff]
  grind

theorem permanent_eq_ok_iff_of_digit {method : EapMethod} {digit : Char} {imsi code : String}
    (himsi : imsi ≠ "") (hdigit : method.leadingDigit? = some digit) {identity : String} :
    (permanent method imsi code).value = .ok identity ↔
      ∃ op, IsHome imsi code op ∧
        identity = String.singleton digit ++ imsi ++ "@" ++ op.realm := by
  rw [permanent_eq_ok_iff]
  simp only [← leadingDigit?_eq_some_iff, hdigit]
  grind

/-! ## The IMSI for the operator -/

theorem isHome_front {imsi : String} {op : Operator} (h : IsHome imsi "" op) :
    ∃ front rest, imsi = front ++ rest ∧ octetLength front = 6 ∧ IsHome imsi front op := by
  obtain ⟨rest, himsi, hmcc, hmnc⟩ := Operator.ofImsi?_eq_some_iff.mp (isHome_of_imsi.mp h)
  have hsix : octetLength (op.mcc ++ op.mnc) = 6 := by rw [octetLength_append, hmcc, hmnc]
  refine ⟨op.mcc ++ op.mnc, rest, himsi, hsix, .inl ⟨?_, rfl, hmcc⟩⟩
  intro hempty
  rw [hempty] at hsix
  contradiction

theorem isHome_take {imsi : String} (hdigits : ∀ c ∈ imsi.toList, c.isDigit = true) {k : Nat}
    (hk : 3 ≤ k) (hlength : k ≤ imsi.length) :
    IsHome imsi (String.ofList (imsi.toList.take k))
      ⟨String.ofList (imsi.toList.take 3), String.ofList ((imsi.toList.drop 3).take (k - 3))⟩ := by
  rw [← String.length_toList] at hlength
  refine .inl ⟨?_, ?_, octetLength_ofList_take hdigits (by omega)⟩
  · intro hempty
    have hlist := congrArg String.length hempty
    rw [String.length_ofList, List.length_take, Nat.min_eq_left hlength] at hlist
    rw [hlist] at hk
    contradiction
  · rw [← String.ofList_append, ← List.take_add, Nat.add_sub_cancel' hk]

theorem permanent_of_front {method : EapMethod} {imsi identity : String}
    (h : (permanent method imsi "").value = .ok identity) :
    ∃ front rest, imsi = front ++ rest ∧ octetLength front = 6 ∧
      (permanent method imsi front).value = .ok identity := by
  obtain ⟨himsi, digit, op, hdigit, hhome, hidentity⟩ := permanent_eq_ok_iff.mp h
  obtain ⟨front, rest, hfront, hsix, hcode⟩ := isHome_front hhome
  exact ⟨front, rest, hfront, hsix,
    permanent_eq_ok_iff.mpr ⟨himsi, digit, op, hdigit, hcode, hidentity⟩⟩

/-- The first `k` digits as a code give the identity that no code gives when they are the
first six, or the first five and the digits behind the country code are zeros. -/
theorem permanent_take_eq_iff {method : EapMethod} {imsi : String} {k : Nat}
    (hmethod : method.leadingDigit? ≠ none) (hdigits : ∀ c ∈ imsi.toList, c.isDigit = true)
    (hsix : 6 ≤ imsi.length) (hk : 3 ≤ k) (hlength : k ≤ imsi.length) :
    ∃ i j, (permanent method imsi (String.ofList (imsi.toList.take k))).value = .ok i ∧
      (permanent method imsi "").value = .ok j ∧
      (i = j ↔ k = 6 ∨ k = 5 ∧ (imsi.toList.drop 3).take 3 = ['0', '0', '0']) := by
  obtain ⟨digit, hdigit⟩ := Option.ne_none_iff_exists'.mp hmethod
  have himsi : imsi ≠ "" := by
    intro hempty
    rw [hempty] at hsix
    exact absurd hsix (by decide)
  have htail : ∀ c ∈ imsi.toList.drop 3, c.isDigit = true :=
    fun c hc => hdigits c (List.mem_of_mem_drop hc)
  have hroom : (imsi.toList.drop 3).length = imsi.length - 3 := by
    rw [List.length_drop, String.length_toList]
  refine ⟨_, _, (permanent_eq_ok_iff_of_digit himsi hdigit).mpr
      ⟨_, isHome_take hdigits hk hlength, rfl⟩,
    (permanent_eq_ok_iff_of_digit himsi hdigit).mpr
      ⟨_, isHome_of_imsi.mpr (Operator.ofImsi?_of_digits hdigits hsix), rfl⟩, ?_⟩
  -- The identities differ in their realms only.
  rw [String.append_right_inj, Operator.realm_take_eq_iff _ htail (by omega) (by omega)]
  exact or_congr (by omega) (and_congr_left' (by omega))

/-- A permanent identity fails for want of an IMSI, then of a method of the card, then of a
realm, which is looked for in the code or, where there is none, in the IMSI; otherwise it
can be built. Without a code it is the one that the first six octets of the IMSI give as a
code. Of the leading digits of an IMSI, those that give this identity as a code are the
first six, and the first five where the second three are zeros. -/
theorem imsi_stands_for_operator (method : EapMethod) (imsi code : String) :
    let built (code : String) := (permanent method imsi code).value
    (built code = .error .missingImsi ↔ imsi = "") ∧
    (imsi ≠ "" →
      (built code = .error (.unsupportedMethod method) ↔ method.leadingDigit? = none)) ∧
    (imsi ≠ "" → method.leadingDigit? ≠ none →
      (built code = .error (.imsiTooShort (octetLength imsi)) ↔
        code = "" ∧ Operator.NotInImsi imsi) ∧
      (built code = .error (.malformedOperator code) ↔ code ≠ "" ∧ Operator.NotInCode code) ∧
      ((∃ identity, built code = .ok identity) ↔
        (code = "" → ¬ Operator.NotInImsi imsi) ∧ (code ≠ "" → ¬ Operator.NotInCode code))) ∧
    (∀ identity, built "" = .ok identity →
      ∃ front rest, imsi = front ++ rest ∧ octetLength front = 6 ∧ built front = .ok identity) ∧
    (∀ k, (∀ c ∈ imsi.toList, c.isDigit = true) → 6 ≤ imsi.length → 3 ≤ k → k ≤ imsi.length →
      method.leadingDigit? ≠ none → ∃ i j,
        built (String.ofList (imsi.toList.take k)) = .ok i ∧ built "" = .ok j ∧
        (i = j ↔ k = 6 ∨ k = 5 ∧ (imsi.toList.drop 3).take 3 = ['0', '0', '0'])) := by
  intro built
  have herror fault : built code = .error fault ↔ _ := permanent_eq_error_iff
  refine ⟨?_, fun himsi => ?_, fun himsi hmethod => ⟨?_, ?_, ?_⟩,
    fun identity hbuilt => permanent_of_front hbuilt,
    fun k hdigits hsix hk hlength hmethod =>
      permanent_take_eq_iff hmethod hdigits hsix hk hlength⟩
  · rw [herror]
    grind [realmFault]
  · rw [herror]
    grind [realmFault]
  · rw [herror, exists_isHome_iff]
    grind [realmFault]
  · rw [herror, exists_isHome_iff]
    grind [realmFault]
  · obtain ⟨digit, hdigit⟩ := Option.ne_none_iff_exists'.mp hmethod
    rw [← exists_isHome_iff]
    simp only [built, permanent_eq_ok_iff_of_digit himsi hdigit]
    grind

end Identity

end CarrierAuth
