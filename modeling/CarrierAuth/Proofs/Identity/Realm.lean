import CarrierAuth.Proofs.Identity.Permanent

/-
  Realms name operators — which operators have the same realm.

  A realm is the network code and then the country code between fixed texts, and neither
  is escaped. The separator does not tell where the network code ends, since the codes may
  hold the same text; that the country code has three octets does. What the realm does not
  tell is whether the first digit of a network code of three octets was filled in.

  What is proved:
    1. `realm_eq_iff` — the realm tells both codes, the network code as it is filled up.
    2. `paddedMnc_eq_iff` — which network codes are filled up to the same one.
    3. `realm_eq_iff_up_to_zero` — so operator codes that are read have the same realm only
       where they are the same or differ in that zero.
-/
namespace CarrierAuth.Operator

/-! ## Network codes -/

/-- Whether a network code of two octets is filled up to another one. -/
def FillsUpTo (mnc mnc' : String) : Prop := octetLength mnc = 2 ∧ mnc' = "0" ++ mnc

theorem FillsUpTo.octetLength_eq {mnc mnc' : String} (h : FillsUpTo mnc mnc') :
    octetLength mnc' = 3 := by
  obtain ⟨hlength, rfl⟩ := h
  rw [octetLength_append, hlength]
  rfl

theorem paddedMnc_of_fillsUpTo {op : Operator} {mnc : String} (h : FillsUpTo op.mnc mnc) :
    op.paddedMnc = mnc := by
  rw [paddedMnc, if_pos h.1, h.2]

theorem paddedMnc_of_ne {op : Operator} (h : octetLength op.mnc ≠ 2) : op.paddedMnc = op.mnc :=
  if_neg h

theorem fillsUpTo_paddedMnc {op : Operator} (h : octetLength op.mnc = 2) :
    FillsUpTo op.mnc op.paddedMnc := by
  rw [paddedMnc, if_pos h]
  exact ⟨h, rfl⟩

theorem paddedMnc_eq_of_fillsUpTo {op op' : Operator} (h : FillsUpTo op.mnc op'.mnc) :
    op.paddedMnc = op'.paddedMnc := by
  have hlength := h.octetLength_eq
  rw [paddedMnc_of_fillsUpTo h, paddedMnc_of_ne (by omega)]

theorem paddedMnc_eq_iff {op op' : Operator} :
    op.paddedMnc = op'.paddedMnc ↔
      op.mnc = op'.mnc ∨ FillsUpTo op.mnc op'.mnc ∨ FillsUpTo op'.mnc op.mnc := by
  refine ⟨fun heq => ?_, ?_⟩
  · by_cases h : octetLength op.mnc = 2
    · by_cases h' : octetLength op'.mnc = 2
      · rw [(fillsUpTo_paddedMnc h).2, (fillsUpTo_paddedMnc h').2, String.append_right_inj] at heq
        exact .inl heq
      · rw [paddedMnc_of_ne h'] at heq
        exact .inr (.inl (heq ▸ fillsUpTo_paddedMnc h))
    · rw [paddedMnc_of_ne h] at heq
      by_cases h' : octetLength op'.mnc = 2
      · exact .inr (.inr (heq ▸ fillsUpTo_paddedMnc h'))
      · rw [paddedMnc_of_ne h'] at heq
        exact .inl heq
  · rintro (hsame | hfills | hfills)
    · rw [paddedMnc, paddedMnc, hsame]
    · exact paddedMnc_eq_of_fillsUpTo hfills
    · exact (paddedMnc_eq_of_fillsUpTo hfills).symm

/-! ## Realms -/

/-- A realm tells both codes where the country codes are of one length. -/
theorem realm_eq_iff {op op' : Operator} (h : octetLength op.mcc = octetLength op'.mcc) :
    op.realm = op'.realm ↔ op.mcc = op'.mcc ∧ op.paddedMnc = op'.paddedMnc := by
  refine ⟨fun heq => ?_, ?_⟩
  · rw [realm, realm, String.append_left_inj] at heq
    -- The country code stands last now, so its length tells where it starts.
    obtain ⟨hfront, hmcc⟩ := append_inj_of_octetLength h heq
    rw [String.append_left_inj, String.append_right_inj] at hfront
    exact ⟨hmcc, hfront⟩
  · rintro ⟨hmcc, hmnc⟩
    rw [realm, realm, hmcc, hmnc]

theorem realm_eq_iff_of_mcc (mcc mnc mnc' : String) :
    (⟨mcc, mnc⟩ : Operator).realm = (⟨mcc, mnc'⟩ : Operator).realm ↔
      (⟨mcc, mnc⟩ : Operator).paddedMnc = (⟨mcc, mnc'⟩ : Operator).paddedMnc := by
  simp only [realm, String.append_left_inj, String.append_right_inj]

theorem octets_mcc_of_ofCode? {code : String} {op : Operator} (h : ofCode? code = some op) :
    octets op.mcc = (octets code).take 3 := by
  obtain ⟨hcode, hlength⟩ := ofCode?_eq_some_iff.mp h
  rw [hcode, octets_append, List.take_left' hlength]

/-- Two operator codes that are read have the same realm exactly when they are the same,
or start with the same three octets and the network code of one, two octets long, is
filled up with a zero to that of the other. -/
theorem realm_eq_iff_up_to_zero {code code' : String} {op op' : Operator}
    (h : ofCode? code = some op) (h' : ofCode? code' = some op') :
    op.realm = op'.realm ↔
      code = code' ∨
        (octets code).take 3 = (octets code').take 3 ∧
          (octetLength op.mnc = 2 ∧ op'.mnc = "0" ++ op.mnc ∨
            octetLength op'.mnc = 2 ∧ op.mnc = "0" ++ op'.mnc) := by
  obtain ⟨hcode, hlength⟩ := ofCode?_eq_some_iff.mp h
  obtain ⟨hcode', hlength'⟩ := ofCode?_eq_some_iff.mp h'
  have hmcc : op.mcc = op'.mcc ↔ (octets code).take 3 = (octets code').take 3 := by
    rw [← octets_mcc_of_ofCode? h, ← octets_mcc_of_ofCode? h']
    exact ⟨congrArg octets, octets_injective⟩
  have hsame : code = code' ↔ op.mcc = op'.mcc ∧ op.mnc = op'.mnc := by
    refine ⟨fun heq => ?_, ?_⟩
    · rw [← heq] at h'
      obtain rfl := Option.some.inj (h.symm.trans h')
      exact ⟨rfl, rfl⟩
    · rintro ⟨hmcc, hmnc⟩
      rw [hcode, hcode', hmcc, hmnc]
  rw [realm_eq_iff (hlength.trans hlength'.symm), paddedMnc_eq_iff, hsame, ← hmcc, and_or_left]
  rfl

/-- A network code that holds the separator does not make an operator look like another
one, and a zero in front of two octets does. -/
theorem separator_in_code_tells_apart :
    ofCode? "3101.mcc310" = some ⟨"310", "1.mcc310"⟩ ∧
    ofCode? "31015" = some ⟨"310", "15"⟩ ∧
    ofCode? "310015" = some ⟨"310", "015"⟩ ∧
    (⟨"310", "15"⟩ : Operator).realm = (⟨"310", "015"⟩ : Operator).realm ∧
    (⟨"310", "1.mcc310"⟩ : Operator).realm ≠ (⟨"310", "15"⟩ : Operator).realm := by
  have hseparator : ofCode? "3101.mcc310" = some ⟨"310", "1.mcc310"⟩ := by decide
  have hshort : ofCode? "31015" = some ⟨"310", "15"⟩ := by decide
  have hfull : ofCode? "310015" = some ⟨"310", "015"⟩ := by decide
  refine ⟨hseparator, hshort, hfull, ?_, ?_⟩
  · exact (realm_eq_iff_up_to_zero hshort hfull).mpr (.inr ⟨by decide, .inl ⟨by decide, by decide⟩⟩)
  · exact mt (realm_eq_iff_up_to_zero hseparator hshort).mp (by decide)

end CarrierAuth.Operator
