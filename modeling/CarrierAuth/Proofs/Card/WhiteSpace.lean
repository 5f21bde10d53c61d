import CarrierAuth.Proofs.Card.ReplyGrammar
import CarrierAuth.Proofs.Card.ReplyLength
import CarrierAuth.Proofs.Card.UmtsChallenge

/-
  White space in replies — what line breaks and blanks in the text of a reply do to
  the answer.

  Reading Base64 drops white space, but the test for short replies counts the octets
  of the text before that. For GSM the count never decides, since every layout wants
  more octets than a short text can hold. For UMTS it does: a synchronisation failure
  with a token of at most one octet fits into four symbols, so it is refused when the
  reply is just these symbols and accepted when a line break follows them.

  What is proved:
    1. `Gsm.outcome_eq_ok_iff` — for GSM a reply counts for what it holds in Base64.
    2. `Umts.outcome_eq_ok_iff_of_short` — what UMTS makes of a short reply.
    3. `space_decides_short_tokens_only` — both together: replies that differ in white
       space only are answered alike, short UMTS replies apart.
-/
namespace CarrierAuth

/-- A card that gives the same reply to every command. -/
def Card.always (reply : String) : Card Unit := fun _ _ => (some reply, ())

/-! ## GSM -/

namespace Gsm

theorem lt_length_of_decode {layout : GsmLayout} {data : Octets} {record : GsmRecord}
    (h : (decode layout data).value = .ok record) : 4 < data.length := by
  cases layout with
  | counted => exact (decodeCounted_eq_ok_iff.mp h).1
  | fixed =>
    rw [decode, Traced.value_pure, readFixed] at h
    split at h
    · rename_i hlength
      rw [hlength]
      decide
    · contradiction

/-- The test for short replies never decides about a GSM reply. -/
theorem outcome_eq_ok_iff {layout : GsmLayout} {text : String} {record : GsmRecord} :
    outcome layout (some text) = .ok record ↔
      ∃ data, Base64.decode text = .ok data ∧ (decode layout data).value = .ok record := by
  rw [outcome, Outcome.bind_eq_ok_iff]
  simp only [replyOctets_eq_ok_iff]
  refine ⟨?_, ?_⟩
  · intro h
    obtain ⟨data, ⟨-, hdata⟩, hrecord⟩ := h
    exact ⟨data, hdata, hrecord⟩
  · intro h
    obtain ⟨data, hdata, hrecord⟩ := h
    have hlength := lt_length_of_decode hrecord
    exact ⟨data, ⟨lt_octetLength_of_decode hdata (by omega), hdata⟩, hrecord⟩

theorem outcome_of_short {layout : GsmLayout} {text : String}
    (h : (Base64.compact text).length ≤ 4) (record : GsmRecord) :
    outcome layout (some text) ≠ .ok record := by
  intro hok
  obtain ⟨data, hdata, hrecord⟩ := outcome_eq_ok_iff.mp hok
  have hlarge := lt_length_of_decode hrecord
  have hsmall := Base64.length_le_of_decode hdata h
  omega

theorem result_authenticate_single {σ : Type} (card : Card σ) (layout : GsmLayout)
    (app : CardApp) {text : String} (s : σ) (h : IsChallenge text) :
    (authenticate card layout app [text]).result s =
      (outcome layout (card s (challengeCommand layout app text)).1).map fun r => [r] := by
  have hreport := report_answerFrom_challenge card layout app 0 [] s h
  have hresult := congrArg Session.Report.result hreport
  rw [authenticate]
  refine hresult.trans ?_
  cases outcome layout (card s (challengeCommand layout app text)).1 <;> rfl

theorem result_authenticate_none {σ : Type} (card : Card σ) (layout : GsmLayout)
    (app : CardApp) {text : String} (s : σ) (h : ¬ IsChallenge text) :
    (authenticate card layout app [text]).result s = .ok [] :=
  congrArg Session.Report.result (report_answerFrom_skip card layout app 0 [] s h)

end Gsm

/-! ## UMTS -/

namespace Umts

theorem outcome_eq_ok_iff {text : String} {result : UmtsResult} :
    outcome (some text) = .ok result ↔
      4 < octetLength text ∧
        ∃ data, Base64.decode text = .ok data ∧ (decode data).value = .ok result := by
  rw [outcome, Outcome.bind_eq_ok_iff]
  simp only [replyOctets_eq_ok_iff, and_assoc, exists_and_left]

/-- At most three octets hold a synchronisation failure with a token of at most one
octet, or nothing. -/
theorem decode_eq_ok_iff_of_short {data : Octets} (hshort : data.length ≤ 3)
    {result : UmtsResult} :
    (decode data).value = .ok result ↔
      ∃ auts trailing : Octets, auts.length + trailing.length ≤ 1 ∧
        result = .syncFailure auts ∧
        data = [0xdc] ++ ([UInt8.ofNat auts.length] ++ auts) ++ trailing := by
  rw [decode_eq_ok_iff]
  refine ⟨?_, ?_⟩
  · intro h
    obtain ⟨-, trailing, rfl⟩ := h
    cases result with
    | success res ck ik =>
      simp only [UmtsResult.encode_success, List.length_append, List.length_cons,
        List.length_nil] at hshort
      omega
    | syncFailure auts =>
      simp only [UmtsResult.encode_syncFailure, List.length_append, List.length_cons,
        List.length_nil] at hshort
      exact ⟨auts, trailing, by omega, rfl, by rw [UmtsResult.encode_syncFailure]⟩
  · intro h
    obtain ⟨auts, trailing, hlength, rfl, rfl⟩ := h
    exact ⟨UmtsResult.encodable_syncFailure.mpr (by omega), trailing,
      by rw [UmtsResult.encode_syncFailure]⟩

/-- A reply of at most four symbols is an answer when white space makes its text
longer and the symbols hold a short token. -/
theorem outcome_eq_ok_iff_of_short {text : String} (h : (Base64.compact text).length ≤ 4)
    {result : UmtsResult} :
    outcome (some text) = .ok result ↔
      4 < octetLength text ∧
        ∃ auts trailing : Octets, auts.length + trailing.length ≤ 1 ∧
          result = .syncFailure auts ∧
          Base64.decode text =
            .ok ([0xdc] ++ ([UInt8.ofNat auts.length] ++ auts) ++ trailing) := by
  rw [outcome_eq_ok_iff]
  refine and_congr_right fun _ => ⟨?_, ?_⟩
  · intro hok
    obtain ⟨data, hdata, hvalue⟩ := hok
    have hshort := Base64.length_le_of_decode hdata h
    obtain ⟨auts, trailing, hlength, hresult, rfl⟩ := (decode_eq_ok_iff_of_short hshort).mp hvalue
    exact ⟨auts, trailing, hlength, hresult, hdata⟩
  · intro hok
    obtain ⟨auts, trailing, hlength, hresult, hdata⟩ := hok
    have hshort := Base64.length_le_of_decode hdata h
    exact ⟨_, hdata, (decode_eq_ok_iff_of_short hshort).mpr ⟨auts, trailing, hlength, hresult, rfl⟩⟩

theorem result_authenticate_eq_ok_iff {σ : Type} {card : Card σ} {challenges : List String}
    {s : σ} {result : UmtsResult} :
    (authenticate card challenges).result s = .ok result ↔
      ∃ data, encodeChallenge challenges = .ok data ∧
        outcome (card s (command data)).1 = .ok result := by
  cases hencode : encodeChallenge challenges with
  | error fault =>
    have hreport := report_authenticate_refused card s hencode
    have hresult : (authenticate card challenges).result s = .error fault :=
      congrArg Session.Report.result hreport
    simp [hresult]
  | ok data =>
    have hreport := report_authenticate_sent card s hencode
    have hresult : (authenticate card challenges).result s = outcome (card s (command data)).1 :=
      congrArg Session.Report.result hreport
    simp [hresult]

end Umts

/-! ## Replies that differ in white space -/

/-- Replies that differ in white space only lead to the same GSM answers. They lead to
the same UMTS answers when they hold more than four symbols, or when the test for short
replies refuses both or neither. A reply of at most four symbols answers no GSM
challenge; it answers a UMTS challenge exactly when white space takes its text beyond
four octets and the symbols hold a synchronisation failure with a token of at most one
octet. -/
theorem space_decides_short_tokens_only (u v : String)
    (h : Base64.compact u = Base64.compact v) :
    (∀ layout app text records,
      (Gsm.authenticate (.always u) layout app [text]).result () = .ok records ↔
        (Gsm.authenticate (.always v) layout app [text]).result () = .ok records) ∧
    (4 < (Base64.compact u).length ∨ (4 < octetLength u ↔ 4 < octetLength v) →
      ∀ challenges result,
        (Umts.authenticate (.always u) challenges).result () = .ok result ↔
          (Umts.authenticate (.always v) challenges).result () = .ok result) ∧
    ((Base64.compact u).length ≤ 4 →
      (∀ layout app text records, Gsm.IsChallenge text →
        (Gsm.authenticate (.always u) layout app [text]).result () ≠ .ok records) ∧
      ∀ challenges result,
        (Umts.authenticate (.always u) challenges).result () = .ok result ↔
          (∃ data, Umts.encodeChallenge challenges = .ok data) ∧ 4 < octetLength u ∧
            ∃ auts trailing : Octets, auts.length + trailing.length ≤ 1 ∧
              result = .syncFailure auts ∧
              Base64.decode u =
                .ok ([0xdc] ++ ([UInt8.ofNat auts.length] ++ auts) ++ trailing)) := by
  have hdecode : Base64.decode u = Base64.decode v := Base64.decode_congr h
  refine ⟨fun layout app text records => ?_, fun hlengths challenges result => ?_, fun hshort =>
    ⟨fun layout app text records htext => ?_, fun challenges result => ?_⟩⟩
  · by_cases htext : Gsm.IsChallenge text
    · rw [Gsm.result_authenticate_single _ _ _ _ htext,
        Gsm.result_authenticate_single _ _ _ _ htext, Outcome.map_eq_ok_iff,
        Outcome.map_eq_ok_iff]
      simp only [Card.always, Gsm.outcome_eq_ok_iff, hdecode]
    · rw [Gsm.result_authenticate_none _ _ _ _ htext, Gsm.result_authenticate_none _ _ _ _ htext]
  · -- Where the symbols do not fit into a short text, neither text is short.
    have htest : (∃ data, Base64.decode u = .ok data) →
        (4 < octetLength u ↔ 4 < octetLength v) := by
      intro hread
      obtain ⟨data, hdata⟩ := hread
      rcases hlengths with hlong | hsame
      · have hoctets := Base64.octetLength_of_decode hdata
        have hu := Base64.octetLength_compact_le u
        have hv := Base64.octetLength_compact_le v
        rw [← h] at hv
        omega
      · exact hsame
    simp only [Umts.result_authenticate_eq_ok_iff, Card.always, Umts.outcome_eq_ok_iff, ← hdecode]
    refine exists_congr fun challenge => and_congr_right fun _ => ?_
    refine ⟨fun hok => ?_, fun hok => ?_⟩
    · obtain ⟨hlength, data, hdata, hvalue⟩ := hok
      exact ⟨(htest ⟨data, hdata⟩).mp hlength, data, hdata, hvalue⟩
    · obtain ⟨hlength, data, hdata, hvalue⟩ := hok
      exact ⟨(htest ⟨data, hdata⟩).mpr hlength, data, hdata, hvalue⟩
  · rw [Gsm.result_authenticate_single _ _ _ _ htext]
    intro hok
    obtain ⟨record, hrecord, -⟩ := Outcome.map_eq_ok_iff.mp hok
    exact Gsm.outcome_of_short hshort record hrecord
  · rw [Umts.result_authenticate_eq_ok_iff]
    simp only [Card.always, Umts.outcome_eq_ok_iff_of_short hshort, exists_and_right]

/-- A line break inside a longer reply changes no answer; four symbols and a line break
answer no GSM challenge, and a UMTS challenge with the short token they hold. -/
theorem line_breaks_in_long_and_short_reply :
    Base64.compact "3AKquw==" = Base64.compact "3AKq\r\nuw==" ∧
    4 < (Base64.compact "3AKquw==").length ∧
    (∀ challenges result,
      (Umts.authenticate (.always "3AKquw==") challenges).result () = .ok result ↔
        (Umts.authenticate (.always "3AKq\r\nuw==") challenges).result () = .ok result) ∧
    Base64.compact "3AGq\n" = Base64.compact "3AGq" ∧
    (Base64.compact "3AGq\n").length ≤ 4 ∧
    Gsm.IsChallenge "01" ∧
    (∀ layout app records,
      (Gsm.authenticate (.always "3AGq\n") layout app ["01"]).result () ≠ .ok records) ∧
    (Umts.authenticate (.always "3AGq\n") ["01", "02"]).result () = .ok (.syncFailure [0xaa]) := by
  have hcompact : Base64.compact "3AKquw==" = Base64.compact "3AKq\r\nuw==" := by decide
  have hlong : 4 < (Base64.compact "3AKquw==").length := by decide
  have hsame : Base64.compact "3AGq\n" = Base64.compact "3AGq" := by decide
  have hshort : (Base64.compact "3AGq\n").length ≤ 4 := by decide
  have htext : Gsm.IsChallenge "01" := ⟨by decide, Hex.wellFormed_encode [0x01]⟩
  have halike := space_decides_short_tokens_only _ _ hcompact
  obtain ⟨-, -, hrest⟩ := space_decides_short_tokens_only _ _ hsame
  obtain ⟨hgsm, humts⟩ := hrest hshort
  refine ⟨hcompact, hlong, halike.2.1 (.inl hlong), hsame, hshort, htext, ?_, ?_⟩
  · intro layout app records
    exact hgsm layout app "01" records htext
  · exact (humts ["01", "02"] _).mpr ⟨⟨_, rfl⟩, by decide, [0xaa], [], by decide, rfl, rfl⟩

/-- A line break behind a short reply makes an answer of it. -/
theorem line_break_completes_short_token :
    Base64.compact "3AA=" = Base64.compact "3AA=\n" ∧
    (Umts.authenticate (.always "3AA=") ["01", "02"]).result () = .error (.replyTooShort 4) ∧
    (Umts.authenticate (.always "3AA=\n") ["01", "02"]).result () = .ok (.syncFailure []) := by
  exact ⟨by decide, rfl, rfl⟩

end CarrierAuth
