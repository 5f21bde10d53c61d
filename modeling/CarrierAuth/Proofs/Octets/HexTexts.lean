import CarrierAuth.Octets.Codec
import CarrierAuth.Proofs.Octets.Hex

/-
  Hexadecimal texts, exactly — the reader takes what the writer writes, with its letters in
  either case, and nothing else.

  What is proved:
    1. `digit_digitValue` — a digit stands for a number that is written as the same digit in
       lower case; and only digits are digits in lower case (`isDigit_of_toLower`).
    2. `digits_pairs` — so the octets that digits are read as are written as the same digits
       in lower case, pair by pair.
    3. `decode_eq_ok_iff_toLower` — a text is read as data exactly where it is, in lower
       case, what the data is written as.
    4. `readHexField_eq` — a field is read where its text is, with the count in front.
    5. `readHex_inverts_encode` — all of it, for the readers as the library uses them.
-/
namespace CarrierAuth

namespace Hex

/-! ## Digits in lower case -/

theorem digit_digitValue {c : Char} (h : IsDigit c) :
    digitValue c < 16 ∧ digit (digitValue c) = c.toLower :=
  forall_ascii
    (p := fun c => IsDigit c → digitValue c < 16 ∧ digit (digitValue c) = c.toLower)
    (by decide) (toNat_lt_of_isDigit h) h

theorem isDigit_of_toLower {c : Char} (h : IsDigit c.toLower) : IsDigit c := by
  by_cases hascii : c.toNat < 128
  · exact forall_ascii (p := fun c => IsDigit c.toLower → IsDigit c) (by decide) hascii h
  · -- outside ASCII a character stays as it is
    have hupper : ¬ (c.val ≥ 'A'.val ∧ c.val ≤ 'Z'.val) := by
      intro hupper
      have hle : c.toNat ≤ 90 := hupper.2
      omega
    have hsame : c.toLower = c := dif_neg hupper
    rwa [hsame] at h

/-- Digits that are read and written again are the same digits in lower case. -/
theorem digits_pairs : ∀ cs : List Char, (∀ c ∈ cs, IsDigit c) → cs.length % 2 = 0 →
    digits (pairs cs) = cs.map Char.toLower
  | [], _, _ => rfl
  | [_], _, heven => by simp at heven
  | a :: b :: rest, h, heven => by
    obtain ⟨ha, hlowerA⟩ := digit_digitValue (h a (by simp))
    obtain ⟨hb, hlowerB⟩ := digit_digitValue (h b (by simp))
    have ih := digits_pairs rest (fun c hc => h c (by simp [hc]))
      (by simp only [List.length_cons] at heven; omega)
    have hoctet : (UInt8.ofNat (16 * digitValue a + digitValue b)).toNat =
        16 * digitValue a + digitValue b := UInt8.toNat_ofNat_of_lt (show _ < 256 by omega)
    have hhigh : (16 * digitValue a + digitValue b) / 16 = digitValue a := by omega
    have hlow : (16 * digitValue a + digitValue b) % 16 = digitValue b := by omega
    rw [pairs, digits_cons, hoctet, hhigh, hlow, hlowerA, hlowerB, ih, List.map_cons,
      List.map_cons]

/-! ## Texts in lower case -/

theorem toList_toLower (s : String) : s.toLower.toList = s.toList.map Char.toLower :=
  String.toList_map

theorem encode_pairs {s : String} (h : WellFormed s) : encode (pairs s.toList) = s.toLower := by
  obtain ⟨heven, hdigits⟩ := h
  rw [octetLength_of_ascii fun c hc => toNat_lt_of_isDigit (hdigits c hc),
    ← String.length_toList] at heven
  apply String.toList_injective
  rw [encode, String.toList_ofList, digits_pairs _ hdigits heven, toList_toLower]

theorem wellFormed_of_toLower {s : String} {data : Octets} (h : encode data = s.toLower) :
    WellFormed s := by
  obtain ⟨heven, hlower⟩ := wellFormed_encode data
  rw [h, toList_toLower, List.forall_mem_map] at hlower
  have hdigits : ∀ c ∈ s.toList, IsDigit c := fun c hc => isDigit_of_toLower (hlower c hc)
  refine ⟨?_, hdigits⟩
  calc octetLength s % 2
      = s.length % 2 := by
        rw [octetLength_of_ascii fun c hc => toNat_lt_of_isDigit (hdigits c hc)]
    _ = (encode data).length % 2 := by
        rw [h, ← String.length_toList, ← String.length_toList, toList_toLower, List.length_map]
    _ = octetLength (encode data) % 2 := by
        rw [octetLength_of_ascii fun c hc => toNat_lt_of_isDigit ((wellFormed_encode data).2 c hc)]
    _ = 0 := heven

/-- **A text is read as data exactly where it is written data, but for letter case.** -/
theorem decode_eq_ok_iff_toLower {s : String} {data : Octets} :
    decode s = .ok data ↔ encode data = s.toLower := by
  rw [decode_eq_ok_iff]
  refine ⟨?_, fun h => ?_⟩
  · rintro ⟨hwell, rfl⟩
    exact encode_pairs hwell
  · have hwell := wellFormed_of_toLower h
    refine ⟨hwell, encode_injective ?_⟩
    rw [h, encode_pairs hwell]

end Hex

/-! ## As the library reads them -/

theorem readHex_eq_ok_iff {s : String} {data : Octets} :
    readHex s = .ok data ↔ Hex.encode data = s.toLower := by
  rw [readHex, Outcome.mapError_eq_ok_iff, Hex.decode_eq_ok_iff_toLower]

theorem readHexField_eq (s : String) :
    readHexField s = (readHex s).map fun data => UInt8.ofNat data.length :: data := by
  rw [readHexField, readHex]
  cases hdecode : Hex.decode s with
  | error fault =>
    rw [Hex.decodeCounted, hdecode]
    rfl
  | ok data =>
    rw [Hex.decodeCounted_eq_ok_iff.mpr ⟨data, hdecode, rfl⟩]
    rfl

/-- What is written is read back. A text is read exactly where it has an even number of
octets and is made of digits, and then it is, in lower case, what its octets are written as;
so texts that are read stand for the same octets exactly where they differ in letter case
only. As a field the text is read as the same octets behind their count, or refused with the
same fault. -/
theorem readHex_inverts_encode (s : String) :
    (∀ data, readHex (Hex.encode data) = .ok data) ∧
    ((∃ data, readHex s = .ok data) ↔
      octetLength s % 2 = 0 ∧ ∀ c ∈ s.toList, Hex.IsDigit c) ∧
    (∀ data, readHex s = .ok data ↔ Hex.encode data = s.toLower) ∧
    (readHexField s).map List.tail = readHex s ∧
    (∀ fault, readHex s = .error fault →
      (∃ why, fault = .hex s why) ∧ readHexField s = .error fault) ∧
    ∀ t data data', readHex s = .ok data → readHex t = .ok data' →
      (data = data' ↔ s.toLower = t.toLower) := by
  refine ⟨fun data => ?_, ?_, fun data => readHex_eq_ok_iff, ?_, fun fault hfault => ⟨?_, ?_⟩,
    fun t data data' hs ht => ?_⟩
  · rw [readHex, Hex.decode_encode]
    rfl
  · simp only [readHex, Outcome.mapError_eq_ok_iff]
    exact Hex.exists_decode_iff
  · rw [readHexField_eq]
    cases readHex s <;> rfl
  · rw [readHex] at hfault
    cases hdecode : Hex.decode s with
    | error why =>
      rw [hdecode, Outcome.mapError_error] at hfault
      exact ⟨why, (Except.error.inj hfault).symm⟩
    | ok data =>
      rw [hdecode] at hfault
      contradiction
  · rw [readHexField_eq, hfault]
    rfl
  · rw [← readHex_eq_ok_iff.mp hs, ← readHex_eq_ok_iff.mp ht]
    exact Hex.encode_injective.eq_iff.symm

/-- Letters of both cases may stand in one text. -/
example : readHex "dEADbeEF" = .ok [0xde, 0xad, 0xbe, 0xef] := rfl

end CarrierAuth
