import CarrierAuth.Octets.Codec
import CarrierAuth.Proofs.Octets.Utf8
import CarrierAuth.Proofs.Outcome
import CarrierAuth.Text.Digits

/-
  Hexadecimal texts — which texts are read, and as what.

  Reading looks at octets; `Hex.WellFormed` speaks of characters: an even number of
  octets, and nothing but ASCII digits and the letters from A to F in either case.
  What is proved: the reader succeeds exactly on these texts (`decode_eq_ok_iff`),
  and gives one octet for each pair of digits (`pairs`); and what is written is read
  back (`decode_encode`), so different octets have different texts.
-/
namespace CarrierAuth.Hex

/-- Whether a character is a hexadecimal digit. -/
def IsDigit (c : Char) : Prop :=
  '0' ≤ c ∧ c ≤ '9' ∨ 'A' ≤ c ∧ c ≤ 'F' ∨ 'a' ≤ c ∧ c ≤ 'f'

instance : DecidablePred IsDigit := fun _ => inferInstanceAs (Decidable (_ ∨ _))

/-- Whether a text is made of pairs of hexadecimal digits. -/
def WellFormed (s : String) : Prop := octetLength s % 2 = 0 ∧ ∀ c ∈ s.toList, IsDigit c

instance : DecidablePred WellFormed := fun s =>
  have : Decidable (∀ c ∈ s.toList, IsDigit c) :=
    List.decidableBAll IsDigit s.toList
  inferInstanceAs (Decidable (_ ∧ _))

/-- The value of a digit; zero for other characters. -/
def digitValue (c : Char) : Nat := (Text.digitValue? c).getD 0

/-- The octets that digits stand for, one for each pair. -/
def pairs : List Char → Octets
  | a :: b :: rest => UInt8.ofNat (16 * digitValue a + digitValue b) :: pairs rest
  | _ => []

/-! ## Digits as characters and as octets -/

theorem isDigit_iff {c : Char} :
    IsDigit c ↔ 48 ≤ c.toNat ∧ c.toNat ≤ 57 ∨ 65 ≤ c.toNat ∧ c.toNat ≤ 70 ∨
      97 ≤ c.toNat ∧ c.toNat ≤ 102 := Iff.rfl

theorem toNat_lt_of_isDigit {c : Char} (h : IsDigit c) : c.toNat < 128 := by
  have h := isDigit_iff.mp h
  omega

theorem digitValue?_eq (c : Char) :
    Text.digitValue? c =
      if 48 ≤ c.toNat ∧ c.toNat ≤ 57 then some (c.toNat - 48)
      else if 97 ≤ c.toNat ∧ c.toNat ≤ 102 then some (c.toNat - 87)
      else if 65 ≤ c.toNat ∧ c.toNat ≤ 70 then some (c.toNat - 55)
      else none := by
  simp only [Text.digitValue?, Char.isDigit, Bool.and_eq_true, decide_eq_true_eq]
  rfl

theorem value?_of_isDigit {c : Char} (h : IsDigit c) :
    value? (UInt8.ofNat c.toNat) = some (digitValue c) := by
  have hcode := toNat_ofNat_of_ascii (toNat_lt_of_isDigit h)
  have h := isDigit_iff.mp h
  simp only [value?, hcode, digitValue, digitValue?_eq]
  rcases h with h | h | h
  · rw [if_pos h, if_pos h]
    rfl
  · rw [if_neg (by omega), if_pos h, if_neg (by omega), if_neg (by omega), if_pos h]
    rfl
  · rw [if_neg (by omega), if_neg (by omega), if_pos h, if_neg (by omega), if_pos h]
    rfl

theorem isDigit_of_value? {c : Char}
    (h : ∀ b ∈ String.utf8EncodeChar c, (value? b).isSome) : IsDigit c := by
  by_cases hc : c.toNat < 128
  · rw [utf8EncodeChar_of_ascii hc] at h
    have h := h _ List.mem_cons_self
    simp only [value?, toNat_ofNat_of_ascii hc] at h
    rw [isDigit_iff]
    split at h
    · omega
    · split at h
      · omega
      · split at h
        · omega
        · contradiction
  · -- outside ASCII the first octet is no digit
    obtain ⟨b, hb⟩ := List.exists_mem_of_ne_nil _ (String.utf8EncodeChar_ne_nil (c := c))
    have hlarge := le_toNat_of_mem_utf8EncodeChar (by omega) hb
    have h := h b hb
    have hnone : value? b = none := by
      unfold value?
      simp only
      rw [if_neg (by omega), if_neg (by omega), if_neg (by omega)]
    rw [hnone] at h
    contradiction

theorem octets_of_wellFormed {s : String} (h : WellFormed s) :
    octets s = s.toList.map fun c => UInt8.ofNat c.toNat :=
  octetsOf_of_ascii fun c hc => toNat_lt_of_isDigit (h.2 c hc)

theorem length_pairs : ∀ cs : List Char, (pairs cs).length = cs.length / 2
  | [] => rfl
  | [_] => by simp [pairs]
  | _ :: _ :: rest => by
    rw [pairs, List.length_cons, length_pairs rest, List.length_cons, List.length_cons]
    omega

/-! ## Reading -/

theorem decodePairs_of_digits : ∀ (cs : List Char) (position : Nat),
    (∀ c ∈ cs, IsDigit c) → cs.length % 2 = 0 →
      decodePairs position (cs.map fun c => UInt8.ofNat c.toNat) = .ok (pairs cs)
  | [], _, _, _ => rfl
  | [_], _, _, heven => by simp at heven
  | a :: b :: rest, position, h, heven => by
    have ha := value?_of_isDigit (h a (by simp))
    have hb := value?_of_isDigit (h b (by simp))
    have ih := decodePairs_of_digits rest (position + 2) (fun c hc => h c (by simp [hc]))
      (by simp only [List.length_cons] at heven; omega)
    simp only [List.map_cons, decodePairs, digitAt, ha, hb, ih]
    rfl

theorem isSome_value?_of_decodePairs : ∀ (text : Octets) (position : Nat) (data : Octets),
    decodePairs position text = .ok data → ∀ b ∈ text, (value? b).isSome
  | [], _, _, _, b, hb => by simp at hb
  | [_], _, _, h, _, _ => by simp [decodePairs] at h
  | a :: b :: rest, position, data, h, c, hc => by
    simp only [decodePairs, Outcome.bind_eq_ok_iff, digitAt] at h
    obtain ⟨high, ha, low, hb, tail, htail, -⟩ := h
    rcases List.mem_cons.mp hc with rfl | hc
    · split at ha
      · rename_i hv; rw [hv]; rfl
      · contradiction
    · rcases List.mem_cons.mp hc with rfl | hc
      · split at hb
        · rename_i hv; rw [hv]; rfl
        · contradiction
      · exact isSome_value?_of_decodePairs rest _ _ htail c hc

/-- A text is read exactly when it is made of pairs of digits, and then one octet for
each pair. -/
theorem decode_eq_ok_iff {s : String} {data : Octets} :
    decode s = .ok data ↔ WellFormed s ∧ data = pairs s.toList := by
  have hread : WellFormed s → decode s = .ok (pairs s.toList) := by
    intro h
    obtain ⟨heven, hdigits⟩ := h
    have hmap := octets_of_wellFormed ⟨heven, hdigits⟩
    rw [octetLength, hmap, List.length_map] at heven
    rw [decode, decodeOctets, hmap, List.length_map, if_neg (by omega)]
    exact decodePairs_of_digits _ _ hdigits heven
  refine ⟨?_, ?_⟩
  · intro h
    have hwell : WellFormed s := by
      rw [decode, decodeOctets] at h
      split at h
      · contradiction
      · rename_i heven
        have hdigits := isSome_value?_of_decodePairs _ _ _ h
        refine ⟨by rw [octetLength]; omega, fun c hc => isDigit_of_value? fun b hb => ?_⟩
        exact hdigits b (List.mem_flatMap.mpr ⟨c, hc, hb⟩)
    rw [hread hwell] at h
    exact ⟨hwell, (Except.ok.inj h).symm⟩
  · intro h
    obtain ⟨hwell, hdata⟩ := h
    rw [hread hwell, hdata]

theorem octetLength_of_wellFormed {s : String} (h : WellFormed s) :
    octetLength s / 2 = (pairs s.toList).length := by
  rw [octetLength, octets_of_wellFormed h, List.length_map, length_pairs]

theorem exists_decode_iff {s : String} : (∃ data, decode s = .ok data) ↔ WellFormed s := by
  simp only [decode_eq_ok_iff, exists_and_left, exists_eq, and_true]

/-- The octets of a text are put behind their count, of which one octet is kept. -/
theorem decodeCounted_eq_ok_iff {s : String} {counted : Octets} :
    decodeCounted s = .ok counted ↔
      ∃ data, decode s = .ok data ∧ counted = UInt8.ofNat data.length :: data := by
  rw [decodeCounted, Outcome.map_eq_ok_iff]
  refine exists_congr fun data => and_congr_right fun hdata => ?_
  obtain ⟨hwell, rfl⟩ := decode_eq_ok_iff.mp hdata
  rw [octetLength_of_wellFormed hwell]
  exact eq_comm

/-! ## Writing -/

theorem isDigit_digit {n : Nat} (h : n < 16) : IsDigit (digit n) :=
  (by decide : ∀ n < 16, IsDigit (digit n)) n h

theorem digitValue_digit {n : Nat} (h : n < 16) : digitValue (digit n) = n :=
  (by decide : ∀ n < 16, digitValue (digit n) = n) n h

theorem digits_cons (b : UInt8) (data : Octets) :
    digits (b :: data) = digit (b.toNat / 16) :: digit (b.toNat % 16) :: digits data := rfl

theorem isDigit_of_mem_digits {data : Octets} {c : Char} (h : c ∈ digits data) : IsDigit c := by
  induction data with
  | nil => simp [digits] at h
  | cons b data ih =>
    have hb := b.toNat_lt
    rw [digits_cons] at h
    rcases List.mem_cons.mp h with rfl | h
    · exact isDigit_digit (by omega)
    · rcases List.mem_cons.mp h with rfl | h
      · exact isDigit_digit (by omega)
      · exact ih h

theorem length_digits (data : Octets) : (digits data).length = 2 * data.length := by
  induction data with
  | nil => rfl
  | cons b data ih =>
    rw [digits_cons, List.length_cons, List.length_cons, List.length_cons, ih]
    omega

theorem pairs_digits (data : Octets) : pairs (digits data) = data := by
  induction data with
  | nil => rfl
  | cons b data ih =>
    have hb := b.toNat_lt
    rw [digits_cons, pairs, digitValue_digit (by omega), digitValue_digit (by omega), ih,
      Nat.div_add_mod, UInt8.ofNat_toNat]

theorem wellFormed_encode (data : Octets) : WellFormed (encode data) := by
  have hdigits : ∀ c ∈ (encode data).toList, IsDigit c := by
    rw [encode, String.toList_ofList]
    exact fun c hc => isDigit_of_mem_digits hc
  refine ⟨?_, hdigits⟩
  have hascii := octetsOf_of_ascii fun c hc => toNat_lt_of_isDigit (hdigits c hc)
  rw [octetLength, octets, hascii, List.length_map, encode, String.toList_ofList, length_digits]
  omega

theorem decode_encode (data : Octets) : decode (encode data) = .ok data := by
  have hpairs : data = pairs (encode data).toList := by
    rw [encode, String.toList_ofList, pairs_digits]
  exact decode_eq_ok_iff.mpr ⟨wellFormed_encode data, hpairs⟩

theorem encode_injective : Function.Injective encode := by
  intro a b h
  have hread := decode_encode a
  rw [h, decode_encode b] at hread
  exact (Except.ok.inj hread).symm

end CarrierAuth.Hex
