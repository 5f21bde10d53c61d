import CarrierAuth.Card.Answer
import CarrierAuth.Proofs.Octets.Hex

/-
  The text of an answer, and what the supplicant can tell from it.

  1. The text is a row of parts joined by colons: the marker, then the fields in
     hexadecimal (`render_eq_intercalate`).
  2. No part holds a colon, so splitting at the colons gives the parts back, empty
     ones included (`splitOn_render`).
  3. The marker tells the kind, and with it the number and the order of the fields; a
     successful UMTS authentication shows them in the reverse of the card's order.
     Where one GSM record ends and the next begins is not marked, but every record has
     two fields, so the fields determine the records (`recordFields_injective`).
  4. Hence equal texts come from equal outcomes.
-/
namespace CarrierAuth

/-- What the replies of a card to its challenges come to. -/
inductive Authentication where
  | gsm (records : List GsmRecord)
  | umts (result : UmtsResult)
  deriving DecidableEq, Repr

namespace Authentication

def answer : Authentication → Answer
  | .gsm records => .ofRecords records
  | .umts result => result.answer

/-- The fields of records, in the order of their text. -/
def recordFields (records : List GsmRecord) : List Octets :=
  records.flatMap fun r => [r.kc, r.sres]

/-- The fields of an answer, in the order of its text. -/
def fields : Authentication → List Octets
  | .gsm records => recordFields records
  | .umts (.success res ck ik) => [ik, ck, res]
  | .umts (.syncFailure auts) => [auts]

/-- What the colons separate in the text of an answer. -/
def parts (a : Authentication) : List String := a.answer.kind.marker :: a.fields.map Hex.encode

/-! ## The parts of a text -/

/-- A row joined by colons has a colon before every part but the first. -/
theorem intercalate_colon (first : String) (rest : List String) :
    ":".intercalate (first :: rest) = first ++ String.join (rest.map (":" ++ ·)) := by
  induction rest generalizing first with
  | nil => rw [String.intercalate_singleton, List.map_nil, String.join_nil, String.append_empty]
  | cons next rest ih =>
    rw [String.intercalate_cons_cons, ih next, List.map_cons, String.join_cons]
    simp only [String.append_assoc]

theorem renderRecords_eq_join (records : List GsmRecord) :
    renderRecords records =
      String.join (((recordFields records).map Hex.encode).map (":" ++ ·)) := by
  induction records with
  | nil => rfl
  | cons r records ih =>
    rw [renderRecords, List.map_cons, String.join_cons, ← renderRecords, ih]
    simp only [recordFields, GsmRecord.render, List.flatMap_cons, List.cons_append,
      List.nil_append, List.map_cons, String.join_cons, String.append_assoc]

theorem render_eq_intercalate (a : Authentication) : a.answer.render = ":".intercalate a.parts := by
  rw [parts, intercalate_colon, Answer.render]
  congr 1
  match a with
  | .gsm records => exact renderRecords_eq_join records
  | .umts (.success res ck ik) =>
    simp only [answer, UmtsResult.answer, UmtsResult.render, fields, List.map_cons, List.map_nil,
      String.join_cons, String.join_nil, String.append_assoc, String.append_empty]
  | .umts (.syncFailure auts) =>
    simp only [answer, UmtsResult.answer, UmtsResult.render, fields, List.map_cons, List.map_nil,
      String.join_cons, String.join_nil, String.append_empty]

/-! ## Splitting at colons -/

theorem not_colon_mem_marker (kind : AnswerKind) : ':' ∉ kind.marker.toList := by
  cases kind <;> decide

theorem not_colon_mem_encode (data : Octets) : ':' ∉ (Hex.encode data).toList := by
  rw [Hex.encode, String.toList_ofList]
  intro h
  exact absurd (Hex.isDigit_of_mem_digits h) (by decide)

theorem not_colon_mem_part {a : Authentication} {part : String} (h : part ∈ a.parts) :
    ':' ∉ part.toList := by
  rcases List.mem_cons.mp h with rfl | h
  · exact not_colon_mem_marker _
  · obtain ⟨data, -, rfl⟩ := List.mem_map.mp h
    exact not_colon_mem_encode data

/-- Splitting a text at its colons gives its parts. -/
theorem splitOn_render (a : Authentication) :
    a.answer.render.toList.splitOn ':' = a.parts.map String.toList := by
  rw [render_eq_intercalate, String.toList_intercalate]
  refine List.splitOn_intercalate ':' ?_ (by simp [parts])
  intro part h
  obtain ⟨text, htext, rfl⟩ := List.mem_map.mp h
  exact not_colon_mem_part htext

/-! ## From the parts back to the outcome -/

theorem marker_injective {k k' : AnswerKind} (h : k.marker = k'.marker) : k = k' := by
  cases k <;> cases k' <;> first | rfl | exact absurd h (by decide)

/-- Two fields at a time, a list of fields is read as a list of records. -/
theorem recordFields_injective : ∀ {records records' : List GsmRecord},
    recordFields records = recordFields records' → records = records'
  | [], [], _ => rfl
  | [], _ :: _, h => by simp [recordFields] at h
  | _ :: _, [], h => by simp [recordFields] at h
  | ⟨kc, sres⟩ :: records, ⟨kc', sres'⟩ :: records', h => by
    have hcons : kc = kc' ∧ sres = sres' ∧ recordFields records = recordFields records' := by
      simpa [recordFields] using h
    obtain ⟨rfl, rfl, hrest⟩ := hcons
    rw [recordFields_injective hrest]

/-- The kind of an answer and its fields determine the outcome. -/
theorem eq_of_kind_of_fields {a b : Authentication} (hkind : a.answer.kind = b.answer.kind)
    (hfields : a.fields = b.fields) : a = b := by
  match a, b with
  | .gsm records, .gsm records' => rw [recordFields_injective hfields]
  | .umts (.success res ck ik), .umts (.success res' ck' ik') =>
    have hcons : ik = ik' ∧ ck = ck' ∧ res = res' := by simpa [fields] using hfields
    obtain ⟨rfl, rfl, rfl⟩ := hcons
    rfl
  | .umts (.syncFailure auts), .umts (.syncFailure auts') =>
    have hcons : auts = auts' := by simpa [fields] using hfields
    rw [hcons]
  -- Outcomes of two kinds have different markers.
  | .gsm _, .umts (.success ..) | .gsm _, .umts (.syncFailure _)
  | .umts (.success ..), .gsm _ | .umts (.syncFailure _), .gsm _
  | .umts (.success ..), .umts (.syncFailure _)
  | .umts (.syncFailure _), .umts (.success ..) => contradiction

theorem eq_of_parts {a b : Authentication} (h : a.parts = b.parts) : a = b := by
  obtain ⟨hmarker, hfields⟩ := List.cons.inj h
  refine eq_of_kind_of_fields (marker_injective hmarker) ?_
  exact (List.map_inj_right fun _ _ hencode => Hex.encode_injective hencode).mp hfields

theorem eq_of_render {a b : Authentication} (h : a.answer.render = b.answer.render) : a = b := by
  have hsplit : a.parts.map String.toList = b.parts.map String.toList := by
    rw [← splitOn_render, ← splitOn_render, h]
  exact eq_of_parts ((List.map_inj_right fun _ _ => String.toList_inj.mp).mp hsplit)

/-- The text of an answer is unambiguous: outcomes have the same text only if they are
the same, and the colons of the text separate the marker and the fields of the outcome
in hexadecimal, with nothing else between them. -/
theorem render_unambiguous :
    (∀ a b : Authentication, a.answer.render = b.answer.render ↔ a = b) ∧
    (∀ records : List GsmRecord,
      (gsm records).answer.render.toList.splitOn ':' =
        "GSM-AUTH".toList ::
          records.flatMap fun r => [(Hex.encode r.kc).toList, (Hex.encode r.sres).toList]) ∧
    (∀ res ck ik : Octets,
      (umts (.success res ck ik)).answer.render.toList.splitOn ':' =
        ["UMTS-AUTH".toList, (Hex.encode ik).toList, (Hex.encode ck).toList,
          (Hex.encode res).toList]) ∧
    ∀ auts : Octets,
      (umts (.syncFailure auts)).answer.render.toList.splitOn ':' =
        ["UMTS-AUTS".toList, (Hex.encode auts).toList] := by
  refine ⟨?_, ?_, ?_, ?_⟩
  · intro a b
    exact ⟨eq_of_render, fun h => by rw [h]⟩
  · intro records
    rw [splitOn_render, parts, fields, recordFields, List.map_cons, List.map_flatMap,
      List.map_flatMap]
    rfl
  · intro res ck ik
    exact splitOn_render _
  · intro auts
    exact splitOn_render _

end Authentication

end CarrierAuth
