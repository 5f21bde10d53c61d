import CarrierAuth.Card.Umts
import CarrierAuth.Proofs.Card.Batch
import CarrierAuth.Proofs.Octets.Base64

/-
  UMTS challenges — what a challenge puts to the card, and what the card's reply
  makes of the answer.

  A command carries RAND and AUTN as two fields, one behind the other. Only one octet
  is kept of each field's length, so a longer RAND could be taken for a shorter one
  with more behind it. AUTN is what is left, whatever its length octet says.

  What is proved:
    1. `report_authenticate_refused`, `report_authenticate_sent` — a challenge that
       cannot be encoded is refused and never reaches the card; any other is one
       command, and its reply decides.
    2. `encodeChallenge_eq_ok_iff` — which challenges are encoded, and as what.
    3. `Field.encode_append_inj` — a field of at most 255 octets is told apart from
       whatever follows it.
    4. `one_command_carries_both_parts` — all together: when a command is sent, which,
       what the answer is, and that the command tells RAND and AUTN.
-/
namespace CarrierAuth

/-- The longest field whose length one octet tells. -/
def Field.longestTold : Nat := 255

/-- A field whose length one octet tells ends where it ends. -/
theorem Field.encode_append_inj {a b rest rest' : Octets} (ha : a.length ≤ longestTold)
    (hb : b.length ≤ longestTold) (h : encode a ++ rest = encode b ++ rest') :
    a = b ∧ rest = rest' := by
  rw [encode, encode, List.cons_append, List.cons_append, List.cons.injEq] at h
  obtain ⟨hcount, hdata⟩ := h
  have hlength : a.length = b.length := by
    have hcounts := congrArg UInt8.toNat hcount
    rw [UInt8.toNat_ofNat', UInt8.toNat_ofNat'] at hcounts
    unfold longestTold at ha hb
    omega
  exact List.append_inj hdata hlength

theorem Field.encode_injective : Function.Injective encode := by
  intro a b h
  exact (List.cons.inj h).2

namespace Umts

variable {σ : Type}

/-- What a reply comes to: the answer in it, or why it cannot be used. -/
def outcome (reply : Option String) : Except AuthFault UmtsResult := do
  let data ← replyOctets reply
  (decode data).value

theorem readReply_value (reply : Option String) : (readReply reply).value = outcome reply := by
  rw [readReply, outcome]
  cases replyOctets reply with
  | error fault => rfl
  | ok data =>
    simp only [Traced.value_bind]
    show _ = (decode data).value
    cases (decode data).value with
    | error fault => rfl
    | ok result => rfl

theorem commands_decode (data : Octets) : (decode data).commands = [] := by
  rw [decode]
  split
  · rfl
  · split <;> rfl

theorem commands_readReply (reply : Option String) : (readReply reply).commands = [] := by
  rw [readReply]
  cases replyOctets reply with
  | error fault => simp
  | ok data =>
    simp only [Traced.commands_bind, Traced.commands_log, commands_decode, List.nil_append]
    cases (decode data).value <;> simp

theorem report_authenticate_refused (card : Card σ) {challenges : List String} (s : σ)
    {fault : AuthFault} (h : encodeChallenge challenges = .error fault) :
    (authenticate card challenges).report s = ⟨.error fault, [], s⟩ := by
  rw [authenticate, h]
  rfl

theorem report_authenticate_sent (card : Card σ) {challenges : List String} (s : σ)
    {data : Octets} (h : encodeChallenge challenges = .ok data) :
    (authenticate card challenges).report s =
      ⟨outcome (card s (command data)).1, [command data], (card s (command data)).2⟩ := by
  rw [authenticate, h]
  simp [Session.report, readReply_value, commands_readReply]

/-! ## What is put to the card -/

theorem readPart_eq_ok_iff {text : String} {field : Octets} :
    (readHexField text).mapError AuthFault.malformedChallenge = .ok field ↔
      ∃ part, Hex.decode text = .ok part ∧ field = Field.encode part := by
  rw [Outcome.mapError_eq_ok_iff, readHexField, Outcome.mapError_eq_ok_iff,
    Hex.decodeCounted_eq_ok_iff]
  rfl

theorem encodeChallenge_eq_ok_iff {challenges : List String} {data : Octets} :
    encodeChallenge challenges = .ok data ↔
      ∃ randText autnText rand autn, challenges = [randText, autnText] ∧
        Hex.decode randText = .ok rand ∧ Hex.decode autnText = .ok autn ∧
        data = Field.encode rand ++ Field.encode autn := by
  refine ⟨?_, ?_⟩
  · intro h
    unfold encodeChallenge at h
    split at h
    · rename_i randText autnText
      simp only [Outcome.bind_eq_ok_iff, readPart_eq_ok_iff] at h
      obtain ⟨_, ⟨rand, hrand, rfl⟩, _, ⟨autn, hautn, rfl⟩, hdata⟩ := h
      exact ⟨randText, autnText, rand, autn, rfl, hrand, hautn, (Except.ok.inj hdata).symm⟩
    · contradiction
  · intro h
    obtain ⟨randText, autnText, rand, autn, rfl, hrand, hautn, rfl⟩ := h
    simp only [encodeChallenge, Outcome.bind_eq_ok_iff, readPart_eq_ok_iff]
    exact ⟨_, ⟨rand, hrand, rfl⟩, _, ⟨autn, hautn, rfl⟩, rfl⟩

section
variable (card : Card σ) (s : σ) {randText autnText : String} {rand autn : Octets}
  (hrand : Hex.decode randText = .ok rand) (hautn : Hex.decode autnText = .ok autn)
include hrand hautn

theorem report_authenticate_texts :
    let sent := command (Field.encode rand ++ Field.encode autn)
    (authenticate card [randText, autnText]).report s =
      ⟨outcome (card s sent).1, [sent], (card s sent).2⟩ :=
  report_authenticate_sent card s
    (encodeChallenge_eq_ok_iff.mpr ⟨randText, autnText, rand, autn, rfl, hrand, hautn, rfl⟩)

theorem commands_authenticate :
    (authenticate card [randText, autnText]).commands s =
      [command (Field.encode rand ++ Field.encode autn)] :=
  congrArg Session.Report.commands (report_authenticate_texts card s hrand hautn)

theorem result_authenticate :
    (authenticate card [randText, autnText]).result s =
      outcome (card s (command (Field.encode rand ++ Field.encode autn))).1 :=
  congrArg Session.Report.result (report_authenticate_texts card s hrand hautn)

end

theorem command_injective : Function.Injective command := by
  intro a b h
  have hread := congrArg (fun c : Command => Base64.decode c.challenge) h
  simp only [command, Base64.decode_encode] at hread
  exact Except.ok.inj hread

theorem command_fields_inj {rand autn rand' autn' : Octets}
    (h : rand.length ≤ Field.longestTold) (h' : rand'.length ≤ Field.longestTold) :
    command (Field.encode rand ++ Field.encode autn) =
        command (Field.encode rand' ++ Field.encode autn') ↔ rand = rand' ∧ autn = autn' := by
  refine ⟨?_, ?_⟩
  · intro hcommand
    obtain ⟨hrand, hrest⟩ := Field.encode_append_inj h h' (command_injective hcommand)
    exact ⟨hrand, Field.encode_injective hrest⟩
  · rintro ⟨rfl, rfl⟩
    rfl

/-- The octets of a challenge in full: each part behind its length modulo 256. -/
theorem command_fields (rand autn : Octets) :
    command (Field.encode rand ++ Field.encode autn) =
      ⟨.usim, .eapAka, Base64.encode ([UInt8.ofNat (rand.length % 256)] ++ rand
        ++ [UInt8.ofNat (autn.length % 256)] ++ autn)⟩ := by
  have hcount (n : Nat) : UInt8.ofNat (n % 256) = UInt8.ofNat n := UInt8.ofNat_mod_size
  simp [command, Field.encode, hcount]

/-- A challenge is put to the card exactly when it is two texts made of pairs of
hexadecimal digits. It is then one command, which carries the octets of both, each
behind its length modulo 256, and the answer is what the reply comes to. As long as
RANDs have at most 255 octets, the commands of two challenges are equal only where RAND
and AUTN are, however long AUTN is. -/
theorem one_command_carries_both_parts (card : Card σ) (s : σ) (challenges : List String) :
    ((authenticate card challenges).commands s ≠ [] ↔
      ∃ randText autnText, challenges = [randText, autnText] ∧
        Hex.WellFormed randText ∧ Hex.WellFormed autnText) ∧
    (∀ randText autnText rand autn, challenges = [randText, autnText] →
      Hex.decode randText = .ok rand → Hex.decode autnText = .ok autn →
      let sent : Command := ⟨.usim, .eapAka,
        Base64.encode ([UInt8.ofNat (rand.length % 256)] ++ rand
          ++ [UInt8.ofNat (autn.length % 256)] ++ autn)⟩
      (authenticate card challenges).commands s = [sent] ∧
      (authenticate card challenges).result s = (do
        let data ← replyOctets (card s sent).1
        (decode data).value)) ∧
    (∀ randText autnText randText' autnText' rand autn rand' autn',
      Hex.decode randText = .ok rand → Hex.decode autnText = .ok autn →
      Hex.decode randText' = .ok rand' → Hex.decode autnText' = .ok autn' →
      rand.length ≤ 255 → rand'.length ≤ 255 →
      ((authenticate card [randText, autnText]).commands s =
          (authenticate card [randText', autnText']).commands s ↔
        rand = rand' ∧ autn = autn')) := by
  refine ⟨⟨?_, ?_⟩, ?_, ?_⟩
  · intro h
    cases hencode : encodeChallenge challenges with
    | error fault =>
      have hreport := report_authenticate_refused card s hencode
      exact absurd (congrArg Session.Report.commands hreport) h
    | ok data =>
      obtain ⟨randText, autnText, rand, autn, rfl, hrand, hautn, -⟩ :=
        encodeChallenge_eq_ok_iff.mp hencode
      exact ⟨randText, autnText, rfl, Hex.exists_decode_iff.mp ⟨rand, hrand⟩,
        Hex.exists_decode_iff.mp ⟨autn, hautn⟩⟩
  · intro h
    obtain ⟨randText, autnText, rfl, hrand, hautn⟩ := h
    obtain ⟨rand, hrand⟩ := Hex.exists_decode_iff.mpr hrand
    obtain ⟨autn, hautn⟩ := Hex.exists_decode_iff.mpr hautn
    rw [commands_authenticate card s hrand hautn]
    exact List.cons_ne_nil _ _
  · intro randText autnText rand autn hchallenges hrand hautn sent
    subst hchallenges
    have hsent : command (Field.encode rand ++ Field.encode autn) = sent :=
      command_fields rand autn
    refine ⟨?_, ?_⟩
    · rw [commands_authenticate card s hrand hautn, hsent]
    · rw [result_authenticate card s hrand hautn, hsent]
      rfl
  · intro randText autnText randText' autnText' rand autn rand' autn' hrand hautn hrand' hautn'
      hlength hlength'
    rw [commands_authenticate card s hrand hautn, commands_authenticate card s hrand' hautn',
      List.cons.injEq, and_iff_left rfl]
    exact command_fields_inj hlength hlength'

/-- An AUTN of 256 octets has the length octet of an empty one, behind a RAND of 255
octets, and is told from it nevertheless. -/
theorem long_autn_told_from_empty :
    Hex.decode (Hex.encode (List.replicate 255 0)) = .ok (List.replicate 255 0) ∧
    Hex.decode (Hex.encode (List.replicate 256 0)) = .ok (List.replicate 256 0) ∧
    Hex.decode "" = .ok [] ∧
    (List.replicate 255 (0 : UInt8)).length ≤ 255 ∧
    let card : Card Unit := fun _ _ => (some "3AKquw==", ())
    (authenticate card [Hex.encode (List.replicate 255 0), ""]).result () =
      .ok (.syncFailure [0xaa, 0xbb]) ∧
    (authenticate card [Hex.encode (List.replicate 255 0),
        Hex.encode (List.replicate 256 0)]).commands () ≠
      (authenticate card [Hex.encode (List.replicate 255 0), ""]).commands () := by
  have hrand := Hex.decode_encode (List.replicate 255 0)
  have hautn := Hex.decode_encode (List.replicate 256 0)
  have hnone : Hex.decode "" = .ok [] := rfl
  have hlength : (List.replicate 255 (0 : UInt8)).length ≤ 255 :=
    Nat.le_of_eq List.length_replicate
  refine ⟨hrand, hautn, hnone, hlength, ?_⟩
  intro card
  obtain ⟨-, hanswer, htold⟩ := one_command_carries_both_parts card ()
    [Hex.encode (List.replicate 255 0), ""]
  refine ⟨(hanswer _ _ _ _ rfl hrand hnone).2, fun hsame => ?_⟩
  have hparts := (htold _ _ _ _ _ _ _ _ hrand hautn hrand hnone hlength hlength).mp hsame
  have hempty := congrArg List.length hparts.2
  rw [List.length_replicate, List.length_nil] at hempty
  omega

end Umts

end CarrierAuth
