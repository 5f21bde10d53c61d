import CarrierAuth.Octets.Codec
import CarrierAuth.Proofs.Octets.Hex

/-
  Hexadecimal texts of ranges — a range is given by counts of 64 bits, whose sum may wrap. It is
  written as a part of the text of all data: from twice its start to twice its end.

  What is proved:
    1. `addCounts?_eq_some_iff` — a sum of counts is accepted exactly where it is the sum of
       the numbers, so none that wraps is.
    2. `Hex.digits_extract` — the digits of a part of the data are a part of its digits.
    3. `hexRange_eq` — a range is written where it ends, as numbers go, inside the data, and
       is refused where it does not.
    4. `hexRange_exact` — so it is, and a range that is cut in two is written as its parts are.
-/
namespace CarrierAuth

/-! ## Counts and parts of data -/

theorem addCounts?_eq_some_iff {m n sum : UInt64} :
    addCounts? m n = some sum ↔ sum.toNat = m.toNat + n.toNat := by
  have hm := m.toNat_lt
  have hn := n.toNat_lt
  have hsum := sum.toNat_lt
  rw [addCounts?, Option.ite_none_right_eq_some, Option.some.injEq, UInt64.le_iff_toNat_le,
    ← UInt64.toNat_inj, UInt64.toNat_add]
  omega

theorem toNat_add_of_lt {m n : UInt64} (h : m.toNat + n.toNat < UInt64.size) :
    (m + n).toNat = m.toNat + n.toNat := by
  rw [UInt64.toNat_add]
  exact Nat.mod_eq_of_lt h

theorem slice?_eq_some_iff {data part : Octets} {start stop : UInt64} :
    slice? data start stop = some part ↔
      (start.toNat ≤ stop.toNat ∧ stop.toNat ≤ data.length) ∧
        data.extract start.toNat stop.toNat = part := by
  rw [slice?, Option.ite_none_right_eq_some, Option.some.injEq, UInt64.le_iff_toNat_le]

theorem extract_append_extract {α : Type} (l : List α) {start middle stop : Nat}
    (hstart : start ≤ middle) (hstop : middle ≤ stop) :
    l.extract start middle ++ l.extract middle stop = l.extract start stop := by
  obtain ⟨i, rfl⟩ := Nat.exists_eq_add_of_le hstart
  obtain ⟨j, rfl⟩ := Nat.exists_eq_add_of_le hstop
  have hlength : start + i + j - start = i + j := by omega
  rw [List.extract_eq_take_drop, List.extract_eq_take_drop, List.extract_eq_take_drop, hlength,
    Nat.add_sub_cancel_left, Nat.add_sub_cancel_left, List.take_add, List.drop_drop]

namespace Hex

/-! ## Digits of a part -/

theorem digits_drop : ∀ (n : Nat) (data : Octets),
    digits (data.drop n) = (digits data).drop (2 * n)
  | 0, _ => rfl
  | _ + 1, [] => rfl
  | n + 1, _ :: data => digits_drop n data

theorem digits_take : ∀ (n : Nat) (data : Octets),
    digits (data.take n) = (digits data).take (2 * n)
  | 0, _ => rfl
  | _ + 1, [] => rfl
  | n + 1, b :: data => by
    rw [List.take_succ_cons, digits_cons, digits_cons, digits_take n data]
    rfl

theorem digits_extract (data : Octets) (start stop : Nat) :
    digits (data.extract start stop) = (digits data).extract (2 * start) (2 * stop) := by
  rw [List.extract_eq_take_drop, List.extract_eq_take_drop, digits_take, digits_drop,
    Nat.mul_sub]

/-- A range is written where its end, as a number, is not behind that of the data. -/
theorem encodeRange_eq_some_iff {data : Octets} {offset count : UInt64} {text : String}
    (hdata : data.length < UInt64.size) :
    encodeRange data offset count = some text ↔
      offset.toNat + count.toNat ≤ data.length ∧
        encode (data.extract offset.toNat (offset.toNat + count.toNat)) = text := by
  simp only [encodeRange, Option.bind_eq_bind, Option.bind_eq_some_iff, addCounts?_eq_some_iff,
    slice?_eq_some_iff, Option.pure_def, Option.some.injEq]
  constructor
  · rintro ⟨stop, hstop, part, ⟨⟨-, hend⟩, rfl⟩, rfl⟩
    rw [← hstop]
    exact ⟨hend, rfl⟩
  · rintro ⟨hend, rfl⟩
    -- What ends inside the data ends at a count, since the length of the data is one.
    have hstop : (offset + count).toNat = offset.toNat + count.toNat :=
      toNat_add_of_lt (Nat.lt_of_le_of_lt hend hdata)
    refine ⟨offset + count, hstop, _, ⟨⟨?_, ?_⟩, rfl⟩, ?_⟩
    · omega
    · omega
    · rw [hstop]

end Hex

/-! ## Ranges -/

/-- A range inside the data is written as a part of the text of all data; any other is
refused. -/
theorem hexRange_eq {data : Octets} (hdata : data.length < UInt64.size) (offset count : UInt64) :
    hexRange data offset count =
      if offset.toNat + count.toNat ≤ data.length then
        .ok (String.ofList ((Hex.encode data).toList.extract (2 * offset.toNat)
          (2 * (offset.toNat + count.toNat))))
      else .error (.range offset count data.length) := by
  rw [Hex.encode, String.toList_ofList, ← Hex.digits_extract, hexRange]
  split
  next text htext =>
    obtain ⟨hend, rfl⟩ := (Hex.encodeRange_eq_some_iff hdata).mp htext
    rw [if_pos hend]
    rfl
  next hnone =>
    rw [if_neg]
    intro hend
    rw [(Hex.encodeRange_eq_some_iff hdata).mpr ⟨hend, rfl⟩] at hnone
    contradiction

theorem hexRange_eq_ok_iff {data : Octets} {offset count : UInt64} {text : String}
    (hdata : data.length < UInt64.size) :
    hexRange data offset count = .ok text ↔
      offset.toNat + count.toNat ≤ data.length ∧
        String.ofList ((Hex.encode data).toList.extract (2 * offset.toNat)
          (2 * (offset.toNat + count.toNat))) = text := by
  rw [hexRange_eq hdata]
  split <;> simp [*]

/-- A range that is cut in two is written as its parts are, and where they are. -/
theorem hexRange_eq_ok_iff_parts {data : Octets} {offset count first second : UInt64}
    {text : String} (hdata : data.length < UInt64.size)
    (hcount : count.toNat = first.toNat + second.toNat) :
    hexRange data offset count = .ok text ↔
      ∃ before after, hexRange data offset first = .ok before ∧
        hexRange data (offset + first) second = .ok after ∧ before ++ after = text := by
  have hmiddle (hfirst : offset.toNat + first.toNat ≤ data.length) :
      (offset + first).toNat = offset.toNat + first.toNat :=
    toNat_add_of_lt (Nat.lt_of_le_of_lt hfirst hdata)
  have htext := extract_append_extract (Hex.encode data).toList
    (show 2 * offset.toNat ≤ 2 * (offset.toNat + first.toNat) by omega)
    (show _ ≤ 2 * (offset.toNat + count.toNat) by omega)
  simp only [hexRange_eq_ok_iff hdata]
  constructor
  · rintro ⟨hend, rfl⟩
    have hfirst : offset.toNat + first.toNat ≤ data.length := by omega
    refine ⟨_, _, ⟨hfirst, rfl⟩, ⟨?_, rfl⟩, ?_⟩
    · rw [hmiddle hfirst]
      omega
    · rw [hmiddle hfirst, Nat.add_assoc, ← hcount, ← String.ofList_append, htext]
  · rintro ⟨_, _, ⟨hfirst, rfl⟩, ⟨hsecond, rfl⟩, rfl⟩
    rw [hmiddle hfirst, Nat.add_assoc, ← hcount] at hsecond ⊢
    exact ⟨hsecond, by rw [← String.ofList_append, htext]⟩

/-- **A range is exact.** It is written where its end, as a number, is not behind the end of
the data, and then as the part of the text of all data between twice its start and twice its
end; where it is not written, the fault tells what was asked for. Wherever it is cut in two, it
is written as its parts are in a row. The length of any data in memory is itself a count, which
is what `hdata` says. -/
theorem hexRange_exact {data : Octets} (hdata : data.length < UInt64.size)
    (offset count : UInt64) :
    (hexRange data offset count =
      if offset.toNat + count.toNat ≤ data.length then
        .ok (String.ofList ((Hex.encode data).toList.extract (2 * offset.toNat)
          (2 * (offset.toNat + count.toNat))))
      else .error (.range offset count data.length)) ∧
    ∀ first second : UInt64, count.toNat = first.toNat + second.toNat → ∀ text,
      (hexRange data offset count = .ok text ↔
        ∃ before after, hexRange data offset first = .ok before ∧
          hexRange data (offset + first) second = .ok after ∧ before ++ after = text) :=
  ⟨hexRange_eq hdata offset count, fun _ _ hcount _ => hexRange_eq_ok_iff_parts hdata hcount⟩

/-- The end of a range may wrap to a place inside the data, which does not save the range. -/
theorem wrapped_range_is_refused :
    ([1, 2, 3] : Octets).length < UInt64.size ∧
    (18446744073709551615 : UInt64) + 2 = 1 ∧
    hexRange [1, 2, 3] 18446744073709551615 2 =
      .error (.range 18446744073709551615 2 3) ∧
    hexRange [1, 2, 3] 3 0 = .ok "" ∧
    ∃ before after, hexRange [1, 2, 3] 1 1 = .ok before ∧
      hexRange [1, 2, 3] (1 + 1) 1 = .ok after ∧ before ++ after = "0203" := by
  have hdata : ([1, 2, 3] : Octets).length < UInt64.size := by decide
  have hwhole : hexRange [1, 2, 3] 1 2 = .ok "0203" := (hexRange_exact hdata 1 2).1
  exact ⟨hdata, rfl, (hexRange_exact hdata _ _).1, (hexRange_exact hdata 3 0).1,
    ((hexRange_exact hdata 1 2).2 1 1 rfl _).mp hwhole⟩

end CarrierAuth
