import CarrierAuth.Identity.Permanent
import CarrierAuth.Proofs.Octets.Utf8
import CarrierAuth.Proofs.Outcome

/-
  Permanent identities — what they are made of, when one can be built, and which
  fault is reported when none can.

  What is proved:
    1. `homeOperator_eq_ok_iff` — the operator of an identity is found exactly
       where its codes stand in front, by octets (`IsHome`).
    2. `permanent_eq_ok_iff` — a permanent identity is a digit, the IMSI and the
       realm of that operator.
    3. `permanent_decidedBy` — the three conditions for one, in the order in which
       they are reported.
    4. `encrypted_value` — the encrypted form is what the cipher makes of the
       octets of the clear form.
-/
namespace CarrierAuth

namespace Operator

theorem ofCode?_eq_some_iff {code : String} {op : Operator} :
    ofCode? code = some op ↔ code = op.mcc ++ op.mnc ∧ octetLength op.mcc = 3 := by
  rw [ofCode?, Option.map_eq_some_iff]
  refine ⟨?_, ?_⟩
  · intro h
    obtain ⟨⟨mcc, mnc⟩, hcut, rfl⟩ := h
    exact cut_eq_some_iff.mp hcut
  · intro h
    exact ⟨(op.mcc, op.mnc), cut_eq_some_iff.mpr h, rfl⟩

theorem ofImsi?_eq_some_iff {imsi : String} {op : Operator} :
    ofImsi? imsi = some op ↔
      ∃ rest, imsi = op.mcc ++ op.mnc ++ rest ∧
        octetLength op.mcc = 3 ∧ octetLength op.mnc = 3 := by
  simp only [ofImsi?, Option.bind_eq_bind, Option.bind_eq_some_iff, Option.pure_def,
    Option.some.injEq]
  refine ⟨?_, ?_⟩
  · intro h
    obtain ⟨⟨mcc, behind⟩, hmcc, ⟨mnc, rest⟩, hmnc, rfl⟩ := h
    obtain ⟨himsi, hmccLength⟩ := cut_eq_some_iff.mp hmcc
    obtain ⟨hbehind, hmncLength⟩ := cut_eq_some_iff.mp hmnc
    refine ⟨rest, ?_, hmccLength, hmncLength⟩
    calc imsi = mcc ++ behind := himsi
      _ = mcc ++ (mnc ++ rest) := congrArg (mcc ++ ·) hbehind
      _ = mcc ++ mnc ++ rest := String.append_assoc.symm
  · intro h
    obtain ⟨rest, himsi, hmccLength, hmncLength⟩ := h
    rw [String.append_assoc] at himsi
    exact ⟨(op.mcc, op.mnc ++ rest), cut_eq_some_iff.mpr ⟨himsi, hmccLength⟩,
      (op.mnc, rest), cut_eq_some_iff.mpr ⟨rfl, hmncLength⟩, rfl⟩

theorem ofImsi?_of_digits {imsi : String} (h : ∀ c ∈ imsi.toList, c.isDigit = true)
    (hsix : 6 ≤ imsi.length) :
    ofImsi? imsi =
      some ⟨String.ofList (imsi.toList.take 3), String.ofList ((imsi.toList.drop 3).take 3)⟩ := by
  rw [← String.length_toList] at hsix
  have hbehind : ∀ c ∈ imsi.toList.drop 3, c.isDigit = true :=
    fun c hc => h c (List.mem_of_mem_drop hc)
  have hthree : 3 ≤ (imsi.toList.drop 3).length := by
    rw [List.length_drop]
    omega
  refine ofImsi?_eq_some_iff.mpr ⟨String.ofList ((imsi.toList.drop 3).drop 3), ?_,
    octetLength_ofList_take h (by omega), octetLength_ofList_take hbehind hthree⟩
  rw [← String.ofList_append, ← String.ofList_append, List.append_assoc,
    List.take_append_drop, List.take_append_drop, String.ofList_toList]

theorem exists_ofImsi?_iff {imsi : String} (h : ∀ c ∈ imsi.toList, c.isDigit = true) :
    (∃ op, ofImsi? imsi = some op) ↔ 6 ≤ imsi.length := by
  refine ⟨?_, fun hsix => ⟨_, ofImsi?_of_digits h hsix⟩⟩
  rintro ⟨op, hop⟩
  obtain ⟨rest, himsi, hmcc, hmnc⟩ := ofImsi?_eq_some_iff.mp hop
  have hlength := octetLength_of_isDigit h
  rw [himsi, octetLength_append, octetLength_append, hmcc, hmnc] at hlength
  rw [himsi]
  omega

end Operator

namespace Identity

/-! ## Home operators -/

/-- Whether an operator is the one that an identity belongs to: its codes make up
the operator code or, where there is none, stand in front of the IMSI. -/
def IsHome (imsi code : String) (op : Operator) : Prop :=
  (code ≠ "" ∧ code = op.mcc ++ op.mnc ∧ octetLength op.mcc = 3) ∨
  (code = "" ∧ ∃ rest, imsi = op.mcc ++ op.mnc ++ rest ∧
    octetLength op.mcc = 3 ∧ octetLength op.mnc = 3)

theorem isHome_of_code {imsi code : String} (h : code ≠ "") {op : Operator} :
    IsHome imsi code op ↔ Operator.ofCode? code = some op := by
  rw [IsHome, Operator.ofCode?_eq_some_iff]
  simp only [ne_eq, h, not_false_eq_true, true_and, false_and, or_false]

theorem isHome_of_imsi {imsi : String} {op : Operator} :
    IsHome imsi "" op ↔ Operator.ofImsi? imsi = some op := by
  rw [IsHome, Operator.ofImsi?_eq_some_iff]
  simp only [ne_eq, not_true, true_and, false_and, false_or]

def realmFault (imsi code : String) : IdentityFault :=
  if code = "" then .imsiTooShort (octetLength imsi) else .malformedOperator code

theorem homeOperator_eq_ok_iff {imsi code : String} {op : Operator} :
    (homeOperator imsi code).value = .ok op ↔ IsHome imsi code op := by
  by_cases h : code = ""
  · subst h
    rw [isHome_of_imsi, homeOperator, if_pos rfl]
    cases hop : Operator.ofImsi? imsi <;> simp
  · rw [isHome_of_code h, homeOperator, if_neg h, Traced.value_pure, Operator.ofCode]
    cases hop : Operator.ofCode? code <;> simp

theorem homeOperator_of_not_isHome {imsi code : String} (hnone : ¬ ∃ op, IsHome imsi code op) :
    (homeOperator imsi code).value = .error (realmFault imsi code) := by
  by_cases h : code = ""
  · subst h
    rw [homeOperator, if_pos rfl, realmFault, if_pos rfl]
    cases hop : Operator.ofImsi? imsi with
    | none => rfl
    | some op => exact absurd ⟨op, isHome_of_imsi.mpr hop⟩ hnone
  · rw [homeOperator, if_neg h, realmFault, if_neg h, Traced.value_pure, Operator.ofCode]
    cases hop : Operator.ofCode? code with
    | none => rfl
    | some op => exact absurd ⟨op, (isHome_of_code h).mpr hop⟩ hnone

/-! ## Identities in clear text -/

/-- The digits of the methods that run on the card. -/
def digits : List (EapMethod × Char) := [(.aka, '0'), (.sim, '1'), (.akaPrime, '6')]

theorem leadingDigit?_eq_some_iff {method : EapMethod} {digit : Char} :
    method.leadingDigit? = some digit ↔ (method, digit) ∈ digits := by
  cases method <;> simp [EapMethod.leadingDigit?, digits, eq_comm]

theorem exists_mem_digits_iff {method : EapMethod} :
    (∃ digit, (method, digit) ∈ digits) ↔ method ∈ [EapMethod.sim, .aka, .akaPrime] := by
  cases method <;> simp [digits]

theorem permanent_eq_ok_iff {method : EapMethod} {imsi code identity : String} :
    (permanent method imsi code).value = .ok identity ↔
      imsi ≠ "" ∧ ∃ digit op, (method, digit) ∈ digits ∧ IsHome imsi code op ∧
        identity = String.singleton digit ++ imsi ++ "@" ++ op.realm := by
  by_cases himsi : imsi = ""
  · rw [permanent, if_pos himsi]
    simp [himsi]
  · rw [permanent, if_neg himsi]
    simp only [← leadingDigit?_eq_some_iff, ← homeOperator_eq_ok_iff]
    cases method.leadingDigit? with
    | none => simp
    | some digit =>
      rw [Traced.value_bind, Traced.value_pure, Outcome.map_eq_ok_iff]
      refine ⟨?_, ?_⟩
      · intro h
        obtain ⟨op, hop, hidentity⟩ := h
        exact ⟨himsi, digit, op, rfl, hop, hidentity.symm⟩
      · intro h
        obtain ⟨-, d, op, hdigit, hop, hidentity⟩ := h
        obtain rfl := Option.some.inj hdigit
        exact ⟨op, hop, hidentity.symm⟩

theorem toList_of_permanent {method : EapMethod} {imsi code identity : String}
    (h : (permanent method imsi code).value = .ok identity) :
    ∃ digit rest, (method, digit) ∈ digits ∧ identity.toList = digit :: rest := by
  obtain ⟨-, digit, op, hdigit, -, rfl⟩ := permanent_eq_ok_iff.mp h
  refine ⟨digit, imsi.toList ++ "@".toList ++ op.realm.toList, hdigit, ?_⟩
  simp only [String.toList_append, String.toList_singleton, List.cons_append,
    List.nil_append]

def conditions (method : EapMethod) (imsi code : String) :
    List (Outcome.Condition IdentityFault) :=
  [⟨imsi ≠ "", (· = .missingImsi)⟩,
   ⟨method ∈ [.sim, .aka, .akaPrime], (· = .unsupportedMethod method)⟩,
   ⟨∃ op, IsHome imsi code op, (· = realmFault imsi code)⟩]

theorem permanent_decidedBy (method : EapMethod) (imsi code : String) :
    Outcome.DecidedBy (conditions method imsi code) (permanent method imsi code).value := by
  refine .cons (fun (himsi : imsi ≠ "") => ?_) (fun himsi => ?_)
  · rw [permanent, if_neg himsi]
    refine .cons (fun hmethod => ?_) (fun hmethod => ?_)
    · obtain ⟨digit, hdigit⟩ := exists_mem_digits_iff.mpr hmethod
      rw [leadingDigit?_eq_some_iff.mpr hdigit]
      refine .cons (fun hhome => ?_) (fun hhome => ?_)
      · obtain ⟨op, hop⟩ := hhome
        rw [Traced.value_bind, Traced.value_pure, homeOperator_eq_ok_iff.mpr hop]
        exact .pure _
      · rw [Traced.value_bind, Traced.value_pure, homeOperator_of_not_isHome hhome]
        exact ⟨_, rfl, fun _ => Iff.rfl⟩
    · have hnone : method.leadingDigit? = none := by
        cases hdigit : method.leadingDigit? with
        | none => rfl
        | some digit =>
          exact absurd (exists_mem_digits_iff.mp ⟨digit, leadingDigit?_eq_some_iff.mp hdigit⟩)
            hmethod
      rw [hnone]
      exact ⟨_, rfl, fun _ => Iff.rfl⟩
  · rw [permanent, if_pos (Classical.not_not.mp himsi)]
    exact ⟨_, rfl, fun _ => Iff.rfl⟩

/-! ## Encrypted identities -/

/-- The encrypted form is made of what the cipher gives, and only the cipher can
keep it from being made. -/
theorem encrypted_value (cipher : Cipher) (key : CarrierKey) (identity : String) :
    (encrypted cipher key identity).value =
      ((cipher key.key (octets identity)).value.map (encryptedText · key.id)).mapError
        .encryptionFailed := by
  rw [encrypted]
  simp only [Traced.value_bind]
  cases (cipher key.key (octets identity)).value <;> rfl

theorem toList_encryptedText (ciphertext : Octets) (keyId : Option String) :
    ∃ rest, (encryptedText ciphertext keyId).toList = '\x00' :: rest := by
  unfold encryptedText encryptedMark
  rw [String.toList_append, String.toList_append]
  exact ⟨_, rfl⟩

end Identity

end CarrierAuth
