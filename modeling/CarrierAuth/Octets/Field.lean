import CarrierAuth.Octets

/-
  Length-prefixed fields — one octet, read as a signed number, says how many
  octets of the field follow it.
-/
namespace CarrierAuth.Field

/-- Why no field can be read. -/
inductive Fault where
  /-- No length octet is left. -/
  | missing
  /-- The length octet has its sign bit set. -/
  | negative (value : Int)
  /-- Fewer octets are left than the length octet says. -/
  | short (expected actual : Nat)
  deriving DecidableEq, Repr

def encode (data : Octets) : Octets := UInt8.ofNat data.length :: data

/-- Reads one field and returns what follows it. -/
def read : Octets → Except Fault (Octets × Octets)
  | [] => .error .missing
  | b :: rest =>
    if 128 ≤ b.toNat then .error (.negative (Int.ofNat b.toNat - 256))
    else if rest.length < b.toNat then .error (.short b.toNat rest.length)
    else .ok (rest.take b.toNat, rest.drop b.toNat)

/-- The longest field whose length octet is no negative number. -/
def longest : Nat := 127

theorem toNat_lengthOctet {data : Octets} (h : data.length ≤ longest) :
    (UInt8.ofNat data.length).toNat = data.length := by
  unfold longest at h
  rw [UInt8.toNat_ofNat']
  omega

theorem read_encode_append {data : Octets} (h : data.length ≤ longest) (rest : Octets) :
    read (encode data ++ rest) = .ok (data, rest) := by
  have hb := toNat_lengthOctet h
  unfold longest at h
  simp only [encode, List.cons_append, read, hb]
  rw [if_neg (by omega), if_neg (by rw [List.length_append]; omega), List.take_left,
    List.drop_left]

theorem read_eq_ok_iff {data field rest : Octets} :
    read data = .ok (field, rest) ↔ field.length ≤ longest ∧ data = encode field ++ rest := by
  refine ⟨?_, ?_⟩
  · intro h
    cases data with
    | nil => simp [read] at h
    | cons b tail =>
      simp only [read] at h
      split at h
      · contradiction
      · split at h
        · contradiction
        · rename_i hsign hroom
          simp only [Except.ok.injEq, Prod.mk.injEq] at h
          obtain ⟨rfl, rfl⟩ := h
          have hlen : (tail.take b.toNat).length = b.toNat := by
            rw [List.length_take]; omega
          refine ⟨by rw [hlen]; unfold longest; omega, ?_⟩
          rw [encode, hlen, UInt8.ofNat_toNat, List.cons_append, List.take_append_drop]
  · intro h
    obtain ⟨h, rfl⟩ := h
    exact read_encode_append h rest

end CarrierAuth.Field
