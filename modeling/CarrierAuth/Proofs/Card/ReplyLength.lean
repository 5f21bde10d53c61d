import CarrierAuth.Card.Reply
import CarrierAuth.Proofs.Octets.Base64Texts

/-
  The length of replies — what the test for short replies says about the octets they hold.

  The test counts the octets of the text before the text is read. Up to four of them hold
  at most three octets of data; four octets of data take six symbols at least, also where
  their padding is left out, and no text of five symbols is read at all. So the test counts
  the data, as long as there is no white space that makes a text longer than its symbols.

  What is proved:
    1. `replyOctets_eq_ok_iff`, `replyOctets_eq_short_iff`, `replyOctets_eq_malformed_iff` —
       the three outcomes of a text, by its length and by what it is read as.
    2. `lt_octetLength_compact_iff` — a text that is read has more than four octets, white
       space aside, exactly where its data has four or more.
    3. `reply_length_counts_data` — both together, for texts without white space.
-/
namespace CarrierAuth

/-! ## Outcomes -/

theorem replyOctets_eq_ok_iff {text : String} {data : Octets} :
    replyOctets (some text) = .ok data ↔
      4 < octetLength text ∧ Base64.decode text = .ok data := by
  rw [replyOctets, shortestReply]
  by_cases hshort : octetLength text ≤ 4
  · rw [if_pos hshort]
    refine ⟨fun h => ?_, fun h => ?_⟩
    · contradiction
    · omega
  · rw [if_neg hshort, Outcome.mapError_eq_ok_iff, readBase64, Outcome.mapError_eq_ok_iff]
    exact ⟨fun h => ⟨by omega, h⟩, fun h => h.2⟩

theorem replyOctets_eq_short_iff {text : String} {n : Nat} :
    replyOctets (some text) = .error (.replyTooShort n) ↔
      n = octetLength text ∧ octetLength text ≤ 4 := by
  rw [replyOctets, shortestReply]
  by_cases hshort : octetLength text ≤ 4
  · rw [if_pos hshort]
    simp [hshort, eq_comm]
  · rw [if_neg hshort]
    cases readBase64 text <;> simp [hshort, Outcome.mapError_ok, Outcome.mapError_error]

theorem replyOctets_eq_malformed_iff {text : String} {fault : CodecFault} :
    replyOctets (some text) = .error (.malformedReply fault) ↔
      4 < octetLength text ∧ readBase64 text = .error fault := by
  rw [replyOctets, shortestReply]
  by_cases hshort : octetLength text ≤ 4
  · rw [if_pos hshort]
    simp [Nat.not_lt_of_le hshort]
  · rw [if_neg hshort]
    cases readBase64 text <;>
      simp [Nat.lt_of_not_le hshort, Outcome.mapError_ok, Outcome.mapError_error]

/-! ## Texts and data -/

/-- There is no data for the lengths between four symbols and six. -/
theorem lt_octetLength_compact_iff {text : String} {data : Octets}
    (h : Base64.decode text = .ok data) :
    4 < octetLength (Base64.compact text) ↔ 4 ≤ data.length := by
  obtain ⟨hsymbols, hgroups⟩ := Base64.octetLength_compact_of_decode h
  omega

theorem lt_octetLength_of_decode {text : String} {data : Octets}
    (h : Base64.decode text = .ok data) (hdata : 3 < data.length) : 4 < octetLength text := by
  have hcompact := (lt_octetLength_compact_iff h).mpr hdata
  have hle := Base64.octetLength_compact_le text
  omega

/-- In a text without white space the test for short replies counts what the text holds: the
text gives data exactly where it is read as that data and the data has four octets or more.
It is too short exactly where it has at most four octets, and malformed exactly where it is
longer and is not read. So a text that is written with any part of its padding is never too
short for four octets of data, and always for fewer. -/
theorem reply_length_counts_data (t : String) (h : ∀ c ∈ t.toList, ¬ Base64.IsSpace c) :
    (∀ data, replyOctets (some t) = .ok data ↔ readBase64 t = .ok data ∧ 4 ≤ data.length) ∧
    (∀ n, replyOctets (some t) = .error (.replyTooShort n) ↔
      n = octetLength t ∧ octetLength t ≤ 4) ∧
    (∀ fault, replyOctets (some t) = .error (.malformedReply fault) ↔
      4 < octetLength t ∧ readBase64 t = .error fault) ∧
    ∀ data, Base64.Writes t data →
      replyOctets (some t) =
        if 4 ≤ data.length then .ok data else .error (.replyTooShort (octetLength t)) := by
  have hcompact : Base64.compact t = t := Base64.compact_of_forall h
  have hcount {data : Octets} (hread : Base64.decode t = .ok data) :
      4 < octetLength t ↔ 4 ≤ data.length := by
    simpa only [hcompact] using lt_octetLength_compact_iff hread
  refine ⟨fun data => ?_, fun n => replyOctets_eq_short_iff,
    fun fault => replyOctets_eq_malformed_iff, fun data hwrites => ?_⟩
  · rw [replyOctets_eq_ok_iff, readBase64, Outcome.mapError_eq_ok_iff, and_comm]
    exact and_congr_right fun hread => hcount hread
  · have hread := Base64.decode_eq_ok_iff.mpr hwrites
    by_cases hlength : 4 ≤ data.length
    · rw [if_pos hlength]
      exact replyOctets_eq_ok_iff.mpr ⟨(hcount hread).mpr hlength, hread⟩
    · rw [if_neg hlength]
      have hshort := mt (hcount hread).mp hlength
      exact replyOctets_eq_short_iff.mpr ⟨rfl, Nat.le_of_not_lt hshort⟩

/-- Four octets without their padding, or with a part of it, are a reply, and three octets are
none; five symbols hold nothing. -/
theorem four_octets_are_a_reply :
    (∀ c ∈ "3AKquw".toList, ¬ Base64.IsSpace c) ∧
    replyOctets (some "3AKquw") = .ok [0xdc, 0x02, 0xaa, 0xbb] ∧
    (∀ c ∈ "3AKquw=".toList, ¬ Base64.IsSpace c) ∧
    replyOctets (some "3AKquw=") = .ok [0xdc, 0x02, 0xaa, 0xbb] ∧
    (∀ c ∈ "3AKq".toList, ¬ Base64.IsSpace c) ∧
    readBase64 "3AKq" = .ok [0xdc, 0x02, 0xaa] ∧
    replyOctets (some "3AKq") = .error (.replyTooShort 4) ∧
    (∀ c ∈ "3AKqu".toList, ¬ Base64.IsSpace c) ∧
    replyOctets (some "3AKqu") = .error (.malformedReply (.base64 (.badLength 5))) := by
  have hnone {t : String} (h : (t.toList.all fun c => !decide (Base64.IsSpace c)) = true) :
      ∀ c ∈ t.toList, ¬ Base64.IsSpace c := by
    simpa using h
  have hbare : ∀ c ∈ "3AKquw".toList, ¬ Base64.IsSpace c := hnone rfl
  have hpart : ∀ c ∈ "3AKquw=".toList, ¬ Base64.IsSpace c := hnone rfl
  have hthree : ∀ c ∈ "3AKq".toList, ¬ Base64.IsSpace c := hnone rfl
  have hfive : ∀ c ∈ "3AKqu".toList, ¬ Base64.IsSpace c := hnone rfl
  refine ⟨hbare, ?_, hpart, ?_, hthree, rfl, ?_, hfive, ?_⟩
  · exact ((reply_length_counts_data _ hbare).1 _).mpr ⟨rfl, by decide⟩
  · exact ((reply_length_counts_data _ hpart).1 _).mpr ⟨rfl, by decide⟩
  · exact ((reply_length_counts_data _ hthree).2.1 4).mpr ⟨rfl, by decide⟩
  · exact ((reply_length_counts_data _ hfive).2.2.1 _).mpr ⟨by decide, rfl⟩

end CarrierAuth
