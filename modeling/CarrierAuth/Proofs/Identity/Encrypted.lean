import CarrierAuth.Proofs.Identity.Permanent
import CarrierAuth.Proofs.Octets.Base64Texts

/-
  Encrypted identities are taken apart — the mark, the ciphertext in Base64, and the
  identifier of the key behind the first comma, whatever the identifier holds.

  What is proved:
    1. `comma_not_mem_encode` — Base64 holds no comma, so the first comma of an
       encrypted identity is the one that separates.
    2. `cutAtComma_body` — cutting there gives back both parts, and whether there is an
       identifier at all.
    3. `encrypted_taken_apart` — so the text tells the ciphertext and the identifier, and
       two encryptions give one text only where both are the same.
-/
namespace CarrierAuth

namespace Base64

theorem length_toList_encode (data : Octets) :
    (encode data).toList.length = 4 * ((data.length + 2) / 3) := by
  rw [toList_encode, List.length_append, List.length_replicate, bareText, List.length_map,
    length_bare_add_padding]

theorem isSymbol_of_mem_encode {data : Octets} {c : Char} (h : c ∈ (encode data).toList) :
    isSymbol (UInt8.ofNat c.toNat) = true := by
  rw [encode, String.toList_ofList] at h
  obtain ⟨b, hb, rfl⟩ := List.mem_map.mp h
  have hsymbol := isSymbol_of_mem_encodeOctets hb
  rw [toNat_charOfNat_of_ascii (toNat_lt_of_isSymbol hsymbol), UInt8.ofNat_toNat]
  exact hsymbol

theorem comma_not_mem_encode (data : Octets) : ',' ∉ (encode data).toList :=
  fun hcomma => absurd (isSymbol_of_mem_encode hcomma) (by decide)

theorem at_not_mem_encode (data : Octets) : '@' ∉ (encode data).toList :=
  fun hat => absurd (isSymbol_of_mem_encode hat) (by decide)

end Base64

namespace Identity

/-- The characters before the first comma, and those behind it where there is one. -/
def cutAtComma (cs : List Char) : List Char × Option (List Char) :=
  (cs.takeWhile (· ≠ ','), (cs.dropWhile (· ≠ ',')).tail?)

theorem cutAtComma_append {front : List Char} (h : ',' ∉ front) (rest : List Char) :
    cutAtComma (front ++ rest) = (front ++ (cutAtComma rest).1, (cutAtComma rest).2) := by
  have hfront : ∀ c ∈ front, decide (c ≠ ',') = true := by
    intro c hc
    rw [decide_eq_true_eq]
    rintro rfl
    exact h hc
  rw [cutAtComma, List.takeWhile_append_of_pos hfront, List.dropWhile_append_of_pos hfront]
  rfl

/-- What stands behind the mark of an encrypted identity. -/
def body (ciphertext : Octets) (keyId : Option String) : List Char :=
  (Base64.encode ciphertext).toList ++
    match keyId with
    | some id => ',' :: id.toList
    | none => []

theorem toList_encryptedText_eq (ciphertext : Octets) (keyId : Option String) :
    (encryptedText ciphertext keyId).toList = '\x00' :: body ciphertext keyId := by
  unfold encryptedText encryptedMark body
  rw [String.toList_append, String.toList_append]
  cases keyId with
  | none => rfl
  | some id =>
    rw [String.toList_append]
    rfl

theorem cutAtComma_body (ciphertext : Octets) (keyId : Option String) :
    cutAtComma (body ciphertext keyId) =
      ((Base64.encode ciphertext).toList, keyId.map String.toList) := by
  unfold body
  rw [cutAtComma_append (Base64.comma_not_mem_encode ciphertext)]
  cases keyId <;> simp [cutAtComma]

theorem comma_mem_body_iff {ciphertext : Octets} {keyId : Option String} :
    ',' ∈ body ciphertext keyId ↔ keyId.isSome = true := by
  cases keyId <;> simp [body, Base64.comma_not_mem_encode]

theorem encryptedText_inj {c c' : Octets} {k k' : Option String} :
    encryptedText c k = encryptedText c' k' ↔ c = c' ∧ k = k' := by
  refine ⟨fun h => ?_, ?_⟩
  · have hlist := congrArg String.toList h
    rw [toList_encryptedText_eq, toList_encryptedText_eq] at hlist
    have hcut := congrArg cutAtComma (List.cons.inj hlist).2
    rw [cutAtComma_body, cutAtComma_body] at hcut
    obtain ⟨hcipher, hid⟩ := Prod.mk.inj hcut
    have hread := congrArg Base64.decode (String.toList_injective hcipher)
    rw [Base64.decode_encode, Base64.decode_encode] at hread
    exact ⟨Except.ok.inj hread, Option.map_injective (fun _ _ => String.toList_injective) hid⟩
  · rintro ⟨rfl, rfl⟩
    rfl

/-- Where the cipher gives a ciphertext, the encrypted identity starts with the mark, and
cut at the first comma it gives back the ciphertext and, where the key has an identifier,
that identifier; so it is the same for two calls exactly where both of these are. Where
the cipher fails there is no text, but a fault that says so. -/
theorem encrypted_taken_apart (cipher cipher' : Cipher) (key key' : CarrierKey)
    (identity identity' : String) :
    let run := (encrypted cipher key identity).value
    let run' := (encrypted cipher' key' identity').value
    let outcome := (cipher key.key (octets identity)).value
    let outcome' := (cipher' key'.key (octets identity')).value
    (∀ c, outcome = .ok c → ∃ e rest front behind, run = .ok e ∧ e.toList = '\x00' :: rest ∧
      cutAtComma rest = (front, behind) ∧
      readBase64 (String.ofList front) = .ok c ∧ front.length = 4 * ((c.length + 2) / 3) ∧
      (',' ∈ rest ↔ key.id.isSome = true) ∧ behind.map String.ofList = key.id) ∧
    (∀ c c', outcome = .ok c → outcome' = .ok c' →
      (run = run' ↔ c = c' ∧ key.id = key'.id)) ∧
    (∀ fault, outcome = .error fault → run = .error (.encryptionFailed fault)) := by
  intro run run' outcome outcome'
  have hrun : run = (outcome.map (encryptedText · key.id)).mapError .encryptionFailed :=
    encrypted_value cipher key identity
  have hrun' : run' = (outcome'.map (encryptedText · key'.id)).mapError .encryptionFailed :=
    encrypted_value cipher' key' identity'
  refine ⟨fun c hc => ?_, fun c c' hc hc' => ?_, fun fault hfault => ?_⟩
  · rw [hc] at hrun
    refine ⟨encryptedText c key.id, body c key.id, (Base64.encode c).toList,
      key.id.map String.toList, hrun, toList_encryptedText_eq c key.id,
      cutAtComma_body c key.id, ?_, Base64.length_toList_encode c, comma_mem_body_iff, ?_⟩
    · rw [String.ofList_toList, readBase64, Base64.decode_encode]
      rfl
    · cases key.id with
      | none => rfl
      | some id => simp [String.ofList_toList]
  · rw [hc] at hrun
    rw [hc'] at hrun'
    rw [hrun, hrun', ← encryptedText_inj]
    exact ⟨fun h => Except.ok.inj h, fun h => congrArg Except.ok h⟩
  · rw [hrun, hfault]
    rfl

end Identity

end CarrierAuth
