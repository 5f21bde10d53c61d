import CarrierAuth.Card.Answer
import CarrierAuth.Proofs.Outcome

/-
  The grammar of replies — which octets the decoders of the card's replies accept,
  and what they make of them.

  A reply is a row of length-prefixed fields: SRES and Kc for GSM; for UMTS a tag,
  then RES, CK and IK, or AUTS. Whatever follows the last field is ignored.

  What is proved:
    1. `decode_eq_ok_iff_tagged` — the UMTS decoder accepts exactly the tagged
       rows of fields, gives back the fields that were written, and the tag alone
       decides the kind of answer.
    2. `decodeCounted_eq_ok_iff_indexed` — the counted GSM decoder accepts exactly
       the rows of two fields of at least five octets in all, which is what the
       rule of positions says (`IndexRule`): that rule finds the length octets by
       absolute position and never speaks of a reader that moves on.
-/
namespace CarrierAuth

theorem readField_eq_ok_iff {name : ReplyField} {data field rest : Octets} :
    readField name data = .ok (field, rest) ↔
      field.length ≤ Field.longest ∧ data = Field.encode field ++ rest := by
  rw [readField, Outcome.mapError_eq_ok_iff, Field.read_eq_ok_iff]

/-! ## UMTS replies -/

namespace UmtsResult

def tag : UmtsResult → UmtsTag
  | .success .. => .success
  | .syncFailure _ => .syncFailure

/-- The fields of an answer in the order in which the card sends them. -/
def fields : UmtsResult → List Octets
  | .success res ck ik => [res, ck, ik]
  | .syncFailure auts => [auts]

def encode (r : UmtsResult) : Octets := r.tag.code :: r.fields.flatMap Field.encode

/-- Whether every field of an answer can be written. -/
def Encodable (r : UmtsResult) : Prop := ∀ field ∈ r.fields, field.length ≤ Field.longest

theorem encode_success (res ck ik : Octets) :
    (success res ck ik).encode = [0xdb] ++ ([UInt8.ofNat res.length] ++ res)
      ++ ([UInt8.ofNat ck.length] ++ ck) ++ ([UInt8.ofNat ik.length] ++ ik) := by
  simp [encode, tag, UmtsTag.code, fields, Field.encode]

theorem encode_syncFailure (auts : Octets) :
    (syncFailure auts).encode = [0xdc] ++ ([UInt8.ofNat auts.length] ++ auts) := by
  simp [encode, tag, UmtsTag.code, fields, Field.encode]

theorem encodable_success {res ck ik : Octets} :
    (success res ck ik).Encodable ↔ res.length ≤ 127 ∧ ck.length ≤ 127 ∧ ik.length ≤ 127 := by
  simp [Encodable, fields, Field.longest]

theorem encodable_syncFailure {auts : Octets} :
    (syncFailure auts).Encodable ↔ auts.length ≤ 127 := by
  simp [Encodable, fields, Field.longest]

end UmtsResult

namespace Umts

theorem ofOctet_eq_ok_iff {b : UInt8} {tag : UmtsTag} :
    UmtsTag.ofOctet b = .ok tag ↔ b = tag.code := by
  unfold UmtsTag.ofOctet
  refine ⟨?_, ?_⟩
  · intro h
    split at h
    · cases h; assumption
    · split at h
      · cases h; assumption
      · contradiction
  · intro h
    obtain rfl := h
    cases tag <;> rfl

theorem readFields_eq_ok_iff {tag : UmtsTag} {data rest : Octets} {r : UmtsResult} :
    readFields tag data = .ok (r, rest) ↔
      r.tag = tag ∧ r.Encodable ∧ data = r.fields.flatMap Field.encode ++ rest := by
  cases tag with
  | success =>
    simp only [readFields, Outcome.bind_eq_ok_iff, Prod.exists, readField_eq_ok_iff]
    refine ⟨?_, ?_⟩
    · intro h
      obtain ⟨res, _, ⟨hres, rfl⟩, ck, _, ⟨hck, rfl⟩, ik, _, ⟨hik, rfl⟩, h⟩ := h
      cases h
      exact ⟨rfl, UmtsResult.encodable_success.mpr ⟨hres, hck, hik⟩,
        by simp [UmtsResult.fields]⟩
    · intro h
      obtain ⟨htag, henc, rfl⟩ := h
      cases r with
      | syncFailure auts => contradiction
      | success res ck ik =>
        obtain ⟨hres, hck, hik⟩ := UmtsResult.encodable_success.mp henc
        exact ⟨res, _, ⟨hres, by simp [UmtsResult.fields]⟩, ck, _, ⟨hck, rfl⟩, ik, _,
          ⟨hik, rfl⟩, rfl⟩
  | syncFailure =>
    simp only [readFields, Outcome.bind_eq_ok_iff, Prod.exists, readField_eq_ok_iff]
    refine ⟨?_, ?_⟩
    · intro h
      obtain ⟨auts, _, ⟨hauts, rfl⟩, h⟩ := h
      cases h
      exact ⟨rfl, UmtsResult.encodable_syncFailure.mpr hauts, by simp [UmtsResult.fields]⟩
    · intro h
      obtain ⟨htag, henc, rfl⟩ := h
      cases r with
      | success res ck ik => contradiction
      | syncFailure auts =>
        exact ⟨auts, _, ⟨UmtsResult.encodable_syncFailure.mp henc,
          by simp [UmtsResult.fields]⟩, rfl⟩

theorem readTagged_eq_ok_iff {data rest : Octets} {r : UmtsResult} :
    readTagged data = .ok (r, rest) ↔ r.Encodable ∧ data = r.encode ++ rest := by
  cases data with
  | nil => simp [readTagged, UmtsResult.encode]
  | cons b data =>
    simp only [readTagged, Outcome.bind_eq_ok_iff, ofOctet_eq_ok_iff, readFields_eq_ok_iff,
      UmtsResult.encode, List.cons_append, List.cons.injEq]
    refine ⟨?_, ?_⟩
    · intro h
      obtain ⟨tag, rfl, rfl, henc, hdata⟩ := h
      exact ⟨henc, rfl, hdata⟩
    · intro h
      obtain ⟨henc, rfl, hdata⟩ := h
      exact ⟨r.tag, rfl, rfl, henc, hdata⟩

theorem decode_value (data : Octets) :
    (decode data).value = (readTagged data).map Prod.fst := by
  unfold decode
  cases readTagged data with
  | error fault => rfl
  | ok p =>
    obtain ⟨r, rest⟩ := p
    cases rest <;> rfl

theorem decode_eq_ok_iff {data : Octets} {r : UmtsResult} :
    (decode data).value = .ok r ↔ r.Encodable ∧ ∃ trailing, data = r.encode ++ trailing := by
  simp only [decode_value, Outcome.map_eq_ok_iff, Prod.exists, readTagged_eq_ok_iff]
  refine ⟨?_, ?_⟩
  · intro h
    obtain ⟨_, rest, ⟨henc, hdata⟩, rfl⟩ := h
    exact ⟨henc, rest, hdata⟩
  · intro h
    obtain ⟨henc, rest, hdata⟩ := h
    exact ⟨r, rest, ⟨henc, hdata⟩, rfl⟩

-- No response, an empty key, and an octet behind the fields.
example : (decode [0xdb, 0, 1, 0xaa, 0, 0xff]).value = .ok (.success [] [0xaa] []) := rfl

/-- The decoder accepts exactly the tagged rows of fields of at most 127 octets, with
anything behind them, and gives back the fields that were written; and the first octet
of the reply tells the kind of the answer. -/
theorem decode_eq_ok_iff_tagged (data : Octets) (r : UmtsResult) :
    ((decode data).value = .ok r ↔ ∃ trailing : Octets,
      (∃ res ck ik : Octets, r = .success res ck ik ∧
        (res.length ≤ 127 ∧ ck.length ≤ 127 ∧ ik.length ≤ 127) ∧
        data = [0xdb] ++ ([UInt8.ofNat res.length] ++ res) ++ ([UInt8.ofNat ck.length] ++ ck)
          ++ ([UInt8.ofNat ik.length] ++ ik) ++ trailing) ∨
      (∃ auts : Octets, r = .syncFailure auts ∧ auts.length ≤ 127 ∧
        data = [0xdc] ++ ([UInt8.ofNat auts.length] ++ auts) ++ trailing)) ∧
    ((decode data).value = .ok r →
      (r.kind = .umtsAuth ↔ data.head? = some 0xdb) ∧
      (r.kind = .umtsAuts ↔ data.head? = some 0xdc)) := by
  rw [decode_eq_ok_iff]
  refine ⟨⟨?_, ?_⟩, ?_⟩
  · intro h
    obtain ⟨henc, trailing, rfl⟩ := h
    refine ⟨trailing, ?_⟩
    cases r with
    | success res ck ik =>
      exact .inl ⟨res, ck, ik, rfl, UmtsResult.encodable_success.mp henc,
        by rw [UmtsResult.encode_success]⟩
    | syncFailure auts =>
      exact .inr ⟨auts, rfl, UmtsResult.encodable_syncFailure.mp henc,
        by rw [UmtsResult.encode_syncFailure]⟩
  · intro h
    obtain ⟨trailing, ⟨res, ck, ik, rfl, hlen, rfl⟩ | ⟨auts, rfl, hlen, rfl⟩⟩ := h
    · exact ⟨UmtsResult.encodable_success.mpr hlen, trailing,
        by rw [UmtsResult.encode_success]⟩
    · exact ⟨UmtsResult.encodable_syncFailure.mpr hlen, trailing,
        by rw [UmtsResult.encode_syncFailure]⟩
  · intro h
    obtain ⟨-, trailing, rfl⟩ := h
    cases r <;> simp [UmtsResult.kind, UmtsResult.encode, UmtsResult.tag, UmtsTag.code]

end Umts

/-! ## Fields by position -/

namespace Field

/-- The octet at a position, read as a signed number. -/
def signedAt (data : Octets) (position : Nat) : Option Int :=
  data[position]?.map fun b => b.toInt8.toInt

theorem toInt_toInt8 (b : UInt8) :
    b.toInt8.toInt = if b.toNat < 128 then (b.toNat : Int) else b.toNat - 256 := by
  have h : b.toInt8.toInt = b.toBitVec.toInt := rfl
  rw [h, BitVec.toInt_eq_toNat_cond, UInt8.toNat_toBitVec]
  split <;> split <;> omega

/-- A field stands at a position when the octet there, as a signed number, says how
many of the octets behind it are the field's. -/
theorem drop_eq_encode_append_iff {data field rest : Octets} {position : Nat} :
    (field.length ≤ longest ∧ data.drop position = encode field ++ rest) ↔
      ∃ n : Int, signedAt data position = some n ∧ 0 ≤ n ∧ position + 1 + n ≤ data.length ∧
        field = data.extract (position + 1) (position + 1 + n.toNat) ∧
        rest = data.drop (position + 1 + n.toNat) := by
  refine ⟨?_, ?_⟩
  · intro h
    obtain ⟨hlen, hdata⟩ := h
    have hoctet := toNat_lengthOctet hlen
    have hat : data[position]? = some (UInt8.ofNat field.length) := by
      rw [← Nat.add_zero position, ← List.getElem?_drop, hdata]
      rfl
    have hbehind : data.drop (position + 1) = field ++ rest := by
      rw [← List.drop_drop, hdata]
      rfl
    have hroom := congrArg List.length hdata
    simp only [encode, List.length_drop, List.length_append, List.length_cons] at hroom
    unfold longest at hlen
    refine ⟨field.length, ?_, by omega, by omega, ?_, ?_⟩
    · rw [signedAt, hat, Option.map_some, toInt_toInt8, hoctet, if_pos (by omega)]
    · rw [List.extract_eq_take_drop, hbehind, Int.toNat_natCast, Nat.add_sub_cancel_left,
        List.take_left]
    · rw [Int.toNat_natCast, ← List.drop_drop, hbehind, List.drop_left]
  · -- A signed length that is not negative is the octet itself.
    intro h
    obtain ⟨n, hat, hsign, hroom, rfl, rfl⟩ := h
    obtain ⟨b, hb, rfl⟩ := Option.map_eq_some_iff.mp hat
    obtain ⟨hlt, hget⟩ := List.getElem?_eq_some_iff.mp hb
    rw [toInt_toInt8] at hsign hroom ⊢
    split at hsign
    · rename_i hsmall
      rw [if_pos hsmall] at hroom ⊢
      rw [Int.toNat_natCast]
      have hlen : (data.extract (position + 1) (position + 1 + b.toNat)).length = b.toNat := by
        rw [List.extract_eq_take_drop, List.length_take, List.length_drop]
        omega
      have hbehind : data.extract (position + 1) (position + 1 + b.toNat) ++
          data.drop (position + 1 + b.toNat) = data.drop (position + 1) := by
        rw [List.extract_eq_take_drop, Nat.add_sub_cancel_left,
          ← List.drop_drop (i := b.toNat) (j := position + 1), List.take_append_drop]
      refine ⟨by rw [hlen]; unfold longest; omega, ?_⟩
      rw [encode, hlen, UInt8.ofNat_toNat, List.cons_append, hbehind,
        List.drop_eq_getElem_cons hlt, hget]
    · have := b.toNat_lt
      omega

end Field

/-! ## GSM replies in the counted layout -/

namespace Gsm

theorem readCounted_of_short {data : Octets} (h : data.length ≤ shortestReply) :
    readCounted data = .error (.replyTooShort data.length) := by
  simp only [readCounted, h, if_true]
  rfl

/-- A reply is read exactly where the two fields of a record were written, unless it
is one of the short replies, which are refused unread. -/
theorem readCounted_eq_ok_iff {data rest : Octets} {r : GsmRecord} :
    readCounted data = .ok (r, rest) ↔
      shortestReply < data.length ∧
        r.sres.length ≤ Field.longest ∧ r.kc.length ≤ Field.longest ∧
        data = Field.encode r.sres ++ Field.encode r.kc ++ rest := by
  by_cases hshort : data.length ≤ shortestReply
  · rw [readCounted_of_short hshort]
    refine ⟨?_, ?_⟩
    · intro h
      contradiction
    · intro h
      obtain ⟨hlen, -⟩ := h
      omega
  · simp only [readCounted, hshort, if_false, Outcome.bind_eq_ok_iff, Prod.exists,
      readField_eq_ok_iff]
    refine ⟨?_, ?_⟩
    · intro h
      obtain ⟨sres, _, ⟨hs, rfl⟩, kc, _, ⟨hk, rfl⟩, h⟩ := h
      cases h
      exact ⟨by omega, hs, hk, by rw [List.append_assoc]⟩
    · intro h
      obtain ⟨-, hs, hk, hdata⟩ := h
      rw [List.append_assoc] at hdata
      exact ⟨r.sres, _, ⟨hs, hdata⟩, r.kc, rest, ⟨hk, rfl⟩, rfl⟩

theorem decodeCounted_value (data : Octets) :
    (decodeCounted data).value = (readCounted data).map Prod.fst := by
  unfold decodeCounted
  cases readCounted data with
  | error fault => rfl
  | ok p =>
    obtain ⟨r, rest⟩ := p
    cases rest <;> rfl

theorem decodeCounted_eq_ok_iff {data sres kc : Octets} :
    (decodeCounted data).value = .ok ⟨kc, sres⟩ ↔
      shortestReply < data.length ∧ sres.length ≤ Field.longest ∧ kc.length ≤ Field.longest ∧
        ∃ trailing, data = Field.encode sres ++ Field.encode kc ++ trailing := by
  simp only [decodeCounted_value, Outcome.map_eq_ok_iff, Prod.exists, readCounted_eq_ok_iff]
  refine ⟨?_, ?_⟩
  · intro h
    obtain ⟨_, rest, ⟨hlen, hs, hk, hdata⟩, rfl⟩ := h
    exact ⟨hlen, hs, hk, rest, hdata⟩
  · intro h
    obtain ⟨hlen, hs, hk, rest, hdata⟩ := h
    exact ⟨⟨kc, sres⟩, rest, ⟨hlen, hs, hk, hdata⟩, rfl⟩

/-- The rule of positions for a reply in the counted layout, whose octets of length,
read as signed numbers, are `sresLen` and `kcLen`. -/
structure IndexRule (data : Octets) (sresLen kcLen : Int) : Prop where
  enough : 4 < data.length
  sres_at : Field.signedAt data 0 = some sresLen
  sres_nonneg : 0 ≤ sresLen
  sres_inside : sresLen < data.length
  kc_at : Field.signedAt data (1 + sresLen.toNat) = some kcLen
  kc_nonneg : 0 ≤ kcLen
  kc_inside : 1 + sresLen + 1 + kcLen ≤ data.length

theorem indexRule_iff {data sres kc : Octets} :
    (∃ sresLen kcLen, IndexRule data sresLen kcLen ∧
        sres = data.extract 1 (1 + sresLen.toNat) ∧
        kc = data.extract (2 + sresLen.toNat) (2 + sresLen.toNat + kcLen.toNat)) ↔
      4 < data.length ∧ sres.length ≤ Field.longest ∧ kc.length ≤ Field.longest ∧
        ∃ trailing, data = Field.encode sres ++ Field.encode kc ++ trailing := by
  refine ⟨?_, ?_⟩
  · intro h
    obtain ⟨m, n, h, hsres, hkc⟩ := h
    have hm := h.sres_nonneg
    have hm' := h.sres_inside
    have hn := h.kc_nonneg
    have hn' := h.kc_inside
    -- Kc starts one octet behind its length, which stands behind SRES.
    have hposition : 1 + m.toNat + 1 = 2 + m.toNat := by omega
    rw [← hposition] at hkc
    obtain ⟨hs, hdata⟩ :=
      Field.drop_eq_encode_append_iff.mpr ⟨m, h.sres_at, hm, by omega, hsres, rfl⟩
    obtain ⟨hk, hrest⟩ :=
      Field.drop_eq_encode_append_iff.mpr ⟨n, h.kc_at, hn, by omega, hkc, rfl⟩
    refine ⟨h.enough, hs, hk, data.drop (1 + m.toNat + 1 + n.toNat), ?_⟩
    rw [List.drop_zero, Nat.zero_add, hrest] at hdata
    rw [List.append_assoc]
    exact hdata
  · intro h
    obtain ⟨henough, hs, hk, trailing, hdata⟩ := h
    rw [List.append_assoc] at hdata
    obtain ⟨m, hmat, hm, hm', hsres, hrest⟩ := Field.drop_eq_encode_append_iff.mp
      ⟨hs, (List.drop_zero (l := data)).trans hdata⟩
    rw [Nat.zero_add] at hsres hrest
    obtain ⟨n, hnat, hn, hn', hkc, -⟩ := Field.drop_eq_encode_append_iff.mp ⟨hk, hrest.symm⟩
    have hposition : 1 + m.toNat + 1 = 2 + m.toNat := by omega
    rw [hposition] at hkc
    exact ⟨m, n, ⟨henough, hmat, hm, by omega, hnat, hn, by omega⟩, hsres, hkc⟩

/-- The decoder of the counted layout accepts exactly the replies of at least five
octets that hold SRES and Kc as fields of at most 127 octets, with anything behind
them; and that is what the rule of positions says. -/
theorem decodeCounted_eq_ok_iff_indexed (data sres kc : Octets) :
    ((decodeCounted data).value = .ok ⟨kc, sres⟩ ↔
      5 ≤ data.length ∧ sres.length ≤ 127 ∧ kc.length ≤ 127 ∧ ∃ trailing : Octets,
        data = ([UInt8.ofNat sres.length] ++ sres) ++ ([UInt8.ofNat kc.length] ++ kc)
          ++ trailing) ∧
    ((decodeCounted data).value = .ok ⟨kc, sres⟩ ↔
      ∃ sresLen kcLen, IndexRule data sresLen kcLen ∧
        sres = data.extract 1 (1 + sresLen.toNat) ∧
        kc = data.extract (2 + sresLen.toNat) (2 + sresLen.toNat + kcLen.toNat)) := by
  refine ⟨?_, ?_⟩
  · exact decodeCounted_eq_ok_iff
  · rw [indexRule_iff]
    exact decodeCounted_eq_ok_iff

end Gsm

end CarrierAuth
