import CarrierAuth.Proofs.Text.Digits
import CarrierAuth.Proofs.Yaml.Outline
import CarrierAuth.Yaml.Format
import CarrierAuth.Yaml.Writer

/-
  Spellings — written truth values and numbers are read back.

  What is proved:
    1. `readFlag?_flagText` — a truth value is spelled as it is read.
    2. `readInteger?_toString` — so is a number of either sign: its digits start with no
       zero, so no base and no leading zero is seen in them.
    3. `isKey_toString` — a number of at most 64 bits is short enough for a key.
-/
namespace CarrierAuth.Yaml

theorem readFlag?_flagText (b : Bool) : readFlag? (flagText b) = some b := by
  cases b <;> decide

/-! ## Numbers -/

theorem toList_toString (n : Int) :
    (toString n).toList = if n < 0 then '-' :: Nat.toDigits 10 n.natAbs
      else Nat.toDigits 10 n.natAbs := by
  cases n with
  | ofNat n =>
    have hn : ¬ Int.ofNat n < 0 := Int.not_lt.mpr (Int.natCast_nonneg n)
    rw [if_neg hn]
    exact Nat.toList_repr
  | negSucc n =>
    rw [if_pos (Int.negSucc_lt_zero n), Int.toString_eq_repr, Int.repr, String.toList_append,
      Nat.toList_repr]
    rfl

theorem splitSign_of_isDigit {c : Char} (h : c.isDigit = true) (rest : List Char) :
    splitSign (c :: rest) = (false, c :: rest) := by
  rw [splitSign]
  · rintro _ ⟨⟩
    contradiction
  · rintro _ ⟨⟩
    contradiction

theorem splitSign_toString (n : Int) :
    splitSign (toString n).toList = (decide (n < 0), Nat.toDigits 10 n.natAbs) := by
  rw [toList_toString]
  by_cases hn : n < 0
  · rw [if_pos hn, decide_eq_true hn, splitSign]
  · obtain ⟨c, rest, hdigits, hc, -⟩ := Text.toDigits_ten_eq_cons n.natAbs
    rw [if_neg hn, decide_eq_false hn, hdigits, splitSign_of_isDigit hc]

theorem splitBase_of_digits {c : Char} {rest : List Char} (hc : c = '0' → rest = []) :
    splitBase (c :: rest) = (10, c :: rest) := by
  rw [splitBase]
  all_goals
    rintro _ ⟨⟩
    exact List.cons_ne_nil _ _ (hc rfl)

theorem hasLeadingZero_of_digits {text : List Char} {negative : Bool} {c : Char}
    {rest : List Char} (h : splitSign text = (negative, c :: rest)) (hc : c = '0' → rest = []) :
    hasLeadingZero text = false := by
  rw [hasLeadingZero, h]
  split
  · next heq =>
    obtain ⟨rfl, rfl⟩ := List.cons.inj heq
    exact absurd (hc rfl) (List.cons_ne_nil _ _)
  · rfl

theorem readInteger?_toString (n : Int) : readInteger? (toString n).toList = some n := by
  have hsplit := splitSign_toString n
  have hvalue : Text.digitsValue? 10 (Nat.toDigits 10 n.natAbs) = some n.natAbs :=
    Text.digitsValue?_toDigits (by decide) (by decide) n.natAbs
  -- How the digits start tells that no other base is meant.
  obtain ⟨c, rest, hdigits, -, hc⟩ := Text.toDigits_ten_eq_cons n.natAbs
  rw [hdigits] at hsplit hvalue
  have hread : readInteger? (toString n).toList =
      some (if decide (n < 0) then -(n.natAbs : Int) else n.natAbs) := by
    rw [readInteger?, hasLeadingZero_of_digits hsplit hc, hsplit, if_neg Bool.false_ne_true]
    simp only [splitBase_of_digits hc, hvalue]
    rfl
  rw [hread]
  by_cases hn : n < 0
  · rw [decide_eq_true hn, if_pos rfl]
    exact congrArg some (by omega)
  · rw [decide_eq_false hn, if_neg Bool.false_ne_true]
    exact congrArg some (by omega)

/-! ## Keys -/

theorem isWordChar_of_isDigit {c : Char} (h : c.isDigit = true) : isWordChar c = true := by
  simp [isWordChar, Char.isAlphanum, h]

theorem isKey_toString {n : Int} (h : n.natAbs ≤ Nat.pow 2 64) : IsKey (toString n).toList := by
  obtain ⟨c, rest, hdigits, hc, -⟩ := Text.toDigits_ten_eq_cons n.natAbs
  have hdash : c ≠ '-' := by
    rintro rfl
    contradiction
  have hchars : ∀ c ∈ Nat.toDigits 10 n.natAbs, isWordChar c = true := fun c hc =>
    isWordChar_of_isDigit (Nat.isDigit_of_mem_toDigits (by decide) (by decide) hc)
  have hlength : (Nat.toDigits 10 n.natAbs).length ≤ 20 :=
    (Nat.length_toDigits_le_iff (by decide) (by decide)).mpr (Nat.lt_of_le_of_lt h (by decide))
  rw [toList_toString]
  by_cases hn : n < 0
  · rw [if_pos hn]
    have hstart : '-' = '-' → ∃ d more, _ = d :: more ∧ d ≠ '-' :=
      fun _ => ⟨c, rest, hdigits, hdash⟩
    refine ⟨⟨List.forall_mem_cons.mpr ⟨rfl, hchars⟩, '-', _, rfl, hstart⟩, ?_⟩
    exact Nat.le_trans (Nat.succ_le_succ hlength) (by decide)
  · rw [if_neg hn]
    refine ⟨⟨hchars, c, rest, hdigits, fun h => absurd h hdash⟩, ?_⟩
    exact Nat.le_trans hlength (by decide)

end CarrierAuth.Yaml
