import CarrierAuth.Identity.Temporary
import CarrierAuth.Proofs.Identity.Encrypted

/-
  Anonymous identities are recognised — which identities pass for anonymous ones.

  The recogniser looks for `anonymous@` at the start of an identity or behind its first
  character, whatever that is. An identity that is built ends in the separator and the
  realm, so what counts is what stands in front of the first separator
  (`opensAnonymous_append_iff`). In an encrypted identity no separator stands in the part
  in Base64, and that part is left at a comma, which `anonymous@` does not hold.

  What is proved:
    1. `isAnonymous_iff` — the recogniser in terms of prefixes.
    2. `opensAnonymous_append_iff`, `not_opensAnonymous_append` — what the prefix means in
       front of a realm and in front of the identifier of a key.
    3. `anonymous_recognised` — all four kinds of identities.
-/
namespace CarrierAuth.Identity

/-- Whether characters start with the user part of the anonymous identity and the
separator behind it. -/
def OpensAnonymous (cs : List Char) : Prop := "anonymous@".toList <+: cs

theorem isAnonymous_iff {identity : String} :
    isAnonymous identity = true ↔
      OpensAnonymous identity.toList ∨ OpensAnonymous identity.toList.tail := by
  have huser : (anonymousUser ++ "@").toList = "anonymous@".toList := by decide
  rw [isAnonymous, isAnonymousChars, huser, Bool.or_eq_true, List.isPrefixOf_iff_prefix,
    List.isPrefixOf_iff_prefix]
  rfl

/-! ## Prefixes -/

theorem prefix_append_cases {α : Type} {p front rest : List α} (h : p <+: front ++ rest) :
    p <+: front ∨ ∃ q, p = front ++ q ∧ q <+: rest := by
  rcases List.prefix_or_prefix_of_prefix h (List.prefix_append front rest) with hfront | hfront
  · exact .inl hfront
  · obtain ⟨q, rfl⟩ := hfront
    exact .inr ⟨q, rfl, (List.prefix_append_right_inj front).mp h⟩

/-- There is one separator in `anonymous@`, at its end. -/
theorem eq_of_anonymous_eq {front behind : List Char}
    (h : "anonymous@".toList = front ++ '@' :: behind) : front = "anonymous".toList := by
  have hsplit : "anonymous".toList ++ ['@'] = front ++ '@' :: behind := h
  rcases List.append_eq_append_iff.mp hsplit with ⟨mid, hfront, hmid⟩ | ⟨mid, huser, hmid⟩
  · have hlength := congrArg List.length hmid
    rw [List.length_append, List.length_cons, List.length_cons, List.length_nil] at hlength
    rw [hfront, List.eq_nil_of_length_eq_zero (show mid.length = 0 by omega), List.append_nil]
  · cases mid with
    | nil =>
      rw [huser, List.append_nil]
    | cons c mid =>
      -- A separator would stand in the user part.
      obtain ⟨rfl, -⟩ := List.cons.inj hmid
      have hmem : '@' ∈ "anonymous".toList := by
        rw [huser]
        exact List.mem_append_right front List.mem_cons_self
      exact absurd hmem (by decide)

theorem opensAnonymous_append_iff {front rest : List Char} :
    OpensAnonymous (front ++ '@' :: rest) ↔
      OpensAnonymous front ∨ front = "anonymous".toList := by
  refine ⟨fun h => ?_, ?_⟩
  · rcases prefix_append_cases h with hfront | ⟨q, hq, hrest⟩
    · exact .inl hfront
    · cases q with
      | nil =>
        rw [List.append_nil] at hq
        exact .inl (hq ▸ List.prefix_rfl)
      | cons c q =>
        obtain ⟨rfl, -⟩ := List.cons_prefix_cons.mp hrest
        exact .inr (eq_of_anonymous_eq hq)
  · rintro (hfront | rfl)
    · exact hfront.trans (List.prefix_append front _)
    · exact List.prefix_append "anonymous@".toList rest

theorem not_opensAnonymous_of_not_mem {front : List Char} (h : '@' ∉ front) :
    ¬ OpensAnonymous front :=
  fun hopens => h (hopens.subset (by decide))

theorem not_opensAnonymous_cons {c : Char} (h : c ≠ 'a') (cs : List Char) :
    ¬ OpensAnonymous (c :: cs) :=
  fun hopens => h (List.cons_prefix_cons.mp hopens).1.symm

/-- Characters without a separator, followed by nothing or by a comma. -/
theorem not_opensAnonymous_append {front rest : List Char} (h : '@' ∉ front)
    (hrest : rest = [] ∨ ∃ behind, rest = ',' :: behind) : ¬ OpensAnonymous (front ++ rest) := by
  intro hopens
  rcases prefix_append_cases hopens with hfront | ⟨q, hq, hprefix⟩
  · exact not_opensAnonymous_of_not_mem h hfront
  · cases q with
    | nil =>
      rw [List.append_nil] at hq
      exact not_opensAnonymous_of_not_mem h (hq ▸ List.prefix_rfl)
    | cons c q =>
      rcases hrest with rfl | ⟨behind, rfl⟩
      · exact absurd (List.prefix_nil.mp hprefix) (List.cons_ne_nil c q)
      · obtain ⟨rfl, -⟩ := List.cons_prefix_cons.mp hprefix
        have hcomma : ',' ∈ "anonymous@".toList := by
          rw [hq]
          exact List.mem_append_right front List.mem_cons_self
        exact absurd hcomma (by decide)

theorem opensAnonymous_iff {s : String} :
    OpensAnonymous s.toList ↔ ∃ rest, s = "anonymous@" ++ rest := by
  refine ⟨?_, ?_⟩
  · rintro ⟨rest, hrest⟩
    refine ⟨String.ofList rest, String.toList_injective ?_⟩
    have hbehind : (String.ofList rest).toList = rest := String.toList_ofList
    rw [String.toList_append, hbehind]
    exact hrest.symm
  · rintro ⟨rest, rfl⟩
    rw [String.toList_append]
    exact List.prefix_append _ _

/-! ## Identities with a realm -/

/-- An identity with a realm passes for anonymous when what stands in front of the
separator, its first character apart or not, is the user part or holds all of it. -/
theorem isAnonymous_at_realm_iff {user realm : String} (h : user ≠ "") :
    isAnonymous (user ++ "@" ++ realm) = true ↔
      (OpensAnonymous user.toList ∨ user = "anonymous") ∨
        OpensAnonymous user.toList.tail ∨ user.toList.tail = "anonymous".toList := by
  have hlist : (user ++ "@" ++ realm).toList = user.toList ++ '@' :: realm.toList := by
    rw [String.toList_append, String.toList_append, List.append_assoc]
    rfl
  have hne : user.toList ≠ [] := by
    intro hnil
    exact h (String.toList_injective hnil)
  rw [isAnonymous_iff, hlist, List.tail_append_of_ne_nil hne, opensAnonymous_append_iff,
    opensAnonymous_append_iff, String.toList_inj]

/-- The user part of the anonymous identity, with or without a character in front. -/
theorem isAnonymous_of_lead {lead : String} (h : lead.length ≤ 1) (realm : String) :
    isAnonymous (lead ++ anonymousUser ++ "@" ++ realm) = true := by
  have huser : (lead ++ anonymousUser).toList = lead.toList ++ "anonymous".toList :=
    String.toList_append
  have hne : lead ++ anonymousUser ≠ "" := by
    intro hempty
    rw [hempty] at huser
    exact absurd (List.append_eq_nil_iff.mp huser.symm).2 (by decide)
  rw [isAnonymous_at_realm_iff hne, huser, ← String.toList_inj, huser]
  rw [← String.length_toList] at h
  rcases hlist : lead.toList with - | ⟨c, - | ⟨d, rest⟩⟩
  · exact .inl (.inr rfl)
  · exact .inr (.inr rfl)
  · rw [hlist, List.length_cons, List.length_cons] at h
    omega

theorem isAnonymous_anonymous (method : EapMethod) (op : Operator) (withDigit : Bool) :
    isAnonymous (anonymous method op withDigit) = true := by
  apply isAnonymous_of_lead
  cases withDigit <;> cases method <;> decide

theorem isAnonymous_permanent_iff {method : EapMethod} {imsi code identity : String}
    (h : (permanent method imsi code).value = .ok identity) :
    isAnonymous identity = true ↔ imsi = "anonymous" ∨ ∃ rest, imsi = "anonymous@" ++ rest := by
  obtain ⟨-, digit, op, hdigit, -, rfl⟩ := permanent_eq_ok_iff.mp h
  have huser : (String.singleton digit ++ imsi).toList = digit :: imsi.toList := by
    rw [String.toList_append, String.toList_singleton]
    rfl
  have hletter : digit ≠ 'a' := by
    rintro rfl
    simp [digits] at hdigit
  have hne : String.singleton digit ++ imsi ≠ "" := by
    intro hempty
    rw [hempty] at huser
    exact List.cons_ne_nil _ _ huser.symm
  have huser' : String.singleton digit ++ imsi ≠ "anonymous" := by
    intro hall
    rw [hall] at huser
    exact hletter (List.cons.inj huser).1.symm
  rw [isAnonymous_at_realm_iff hne, huser, List.tail_cons, String.toList_inj, opensAnonymous_iff]
  simp only [not_opensAnonymous_cons hletter, huser', false_or]
  exact Or.comm

theorem isAnonymous_permanent_of_digits {method : EapMethod} {imsi code identity : String}
    (h : (permanent method imsi code).value = .ok identity)
    (hdigits : ∀ c ∈ imsi.toList, c.isDigit = true) : isAnonymous identity = false := by
  rw [Bool.eq_false_iff, ne_eq, isAnonymous_permanent_iff h]
  rintro (rfl | ⟨rest, rfl⟩)
  · exact absurd (hdigits 'a' (by decide)) (by decide)
  · refine absurd (hdigits 'a' ?_) (by decide)
    rw [String.toList_append]
    exact List.mem_append_left _ (by decide)

/-- A pseudonym with the realm of an operator passes for anonymous when it is the user
part, or one character and the user part. -/
theorem isAnonymous_pseudonym_iff {p : String} (hp : p ≠ "") (hrealm : '@' ∉ p.toList)
    (realm : String) :
    isAnonymous (p ++ "@" ++ realm) = true ↔
      p = "anonymous" ∨ ∃ c, p = String.singleton c ++ "anonymous" := by
  have htail : '@' ∉ p.toList.tail := fun hmem => hrealm (List.mem_of_mem_tail hmem)
  rw [isAnonymous_at_realm_iff hp]
  simp only [not_opensAnonymous_of_not_mem hrealm, not_opensAnonymous_of_not_mem htail, false_or]
  refine or_congr_right ⟨fun h => ?_, ?_⟩
  · cases hlist : p.toList with
    | nil => exact absurd (String.toList_injective hlist) hp
    | cons c rest =>
      rw [hlist, List.tail_cons] at h
      refine ⟨c, String.toList_injective ?_⟩
      rw [hlist, h, String.toList_append, String.toList_singleton]
      rfl
  · rintro ⟨c, rfl⟩
    rw [String.toList_append, String.toList_singleton]
    rfl

/-! ## Encrypted identities -/

theorem not_opensAnonymous_body (ciphertext : Octets) (keyId : Option String) :
    ¬ OpensAnonymous (body ciphertext keyId) := by
  apply not_opensAnonymous_append (Base64.at_not_mem_encode ciphertext)
  cases keyId with
  | none => exact .inl rfl
  | some id => exact .inr ⟨id.toList, rfl⟩

theorem isAnonymous_encryptedText (ciphertext : Octets) (keyId : Option String) :
    isAnonymous (encryptedText ciphertext keyId) = false := by
  rw [Bool.eq_false_iff, ne_eq, isAnonymous_iff, toList_encryptedText_eq, List.tail_cons]
  rintro (hmark | hbody)
  · exact not_opensAnonymous_cons (by decide) _ hmark
  · exact not_opensAnonymous_body ciphertext keyId hbody

/-- An anonymous identity passes for one, with and without its digit. An encrypted identity
never does, whatever the ciphertext and the identifier of the key are. A permanent identity
does exactly when the IMSI is the user part of the anonymous identity or starts with it and
a separator, so never with an IMSI made of digits. A pseudonym that gets a realm does
exactly when it is the user part, or one character and the user part. -/
theorem anonymous_recognised (method : EapMethod) (op : Operator) (withDigit : Bool)
    (cipher : Cipher) (key : CarrierKey) (clear imsi code p : String) :
    isAnonymous (anonymous method op withDigit) = true ∧
    (∀ identity, (encrypted cipher key clear).value = .ok identity →
      isAnonymous identity = false) ∧
    (∀ identity, (permanent method imsi code).value = .ok identity →
      (isAnonymous identity = true ↔
        imsi = "anonymous" ∨ ∃ rest, imsi = "anonymous@" ++ rest) ∧
      ((∀ c ∈ imsi.toList, c.isDigit = true) → isAnonymous identity = false)) ∧
    (p ≠ "" → '@' ∉ p.toList → ∃ identity, decorate? p op = some identity ∧
      (isAnonymous identity = true ↔
        p = "anonymous" ∨ ∃ c, p = String.singleton c ++ "anonymous")) := by
  refine ⟨isAnonymous_anonymous method op withDigit, fun identity h => ?_,
    fun identity h => ⟨isAnonymous_permanent_iff h, isAnonymous_permanent_of_digits h⟩,
    fun hp hrealm => ?_⟩
  · rw [encrypted_value, Outcome.mapError_eq_ok_iff, Outcome.map_eq_ok_iff] at h
    obtain ⟨ciphertext, -, rfl⟩ := h
    exact isAnonymous_encryptedText ciphertext key.id
  · have hplain : ¬ hasRealm p = true := by simpa [hasRealm] using hrealm
    refine ⟨p ++ "@" ++ op.realm, ?_, isAnonymous_pseudonym_iff hp hrealm op.realm⟩
    rw [decorate?, if_neg hp, if_neg hplain]

end CarrierAuth.Identity
