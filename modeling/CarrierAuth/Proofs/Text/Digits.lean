import CarrierAuth.Text.Digits

/-
  Digits are read back — in any base that the digits of `Nat.toDigits` reach.

  What is proved:
    1. `digitsValue?_toDigits` — the digits of a number stand for it, by induction from
       the last digit on.
    2. `exists_of_mem_toDigits` — nothing else than digits is written.
    3. `toDigits_ten_eq_cons` — in base ten a digit comes first, and it is no zero unless
       it stands alone.
-/
namespace CarrierAuth.Text

theorem digitValue?_digitChar {base n : Nat} (h : n < base) (hbase : base ≤ 16) :
    (digitValue? n.digitChar).filter (· < base) = some n := by
  have hall : ∀ n < 16, digitValue? (Nat.digitChar n) = some n := by decide
  rw [hall n (Nat.lt_of_lt_of_le h hbase), Option.filter_some, if_pos (decide_eq_true h)]

theorem digitsValue?_concat {base value n : Nat} {digits : List Char}
    (h : digitsValue? base digits = some value) (hn : n < base) (hbase : base ≤ 16) :
    digitsValue? base (digits ++ [n.digitChar]) = some (base * value + n) := by
  rw [digitsValue?] at h ⊢
  split at h
  · contradiction
  · cases hvalues : digits.mapM fun d => (digitValue? d).filter (· < base) with
    | none =>
      rw [hvalues] at h
      contradiction
    | some values =>
      rw [hvalues] at h
      have hvalue : values.foldl (base * · + ·) 0 = value := Option.some.inj h
      simp [List.mapM_append, hvalues, digitValue?_digitChar hn hbase, hvalue]

theorem digitsValue?_toDigits {base : Nat} (htwo : 2 ≤ base) (hbase : base ≤ 16) (n : Nat) :
    digitsValue? base (Nat.toDigits base n) = some n := by
  induction n using Nat.strongRecOn with
  | ind n ih =>
    by_cases hn : n < base
    · rw [Nat.toDigits_of_lt_base hn]
      simp [digitsValue?, digitValue?_digitChar hn hbase]
    · have hle := Nat.le_of_not_lt hn
      rw [Nat.toDigits_of_base_le htwo hle,
        digitsValue?_concat (ih _ (Nat.div_lt_self (by omega) htwo)) (Nat.mod_lt n (by omega))
          hbase, Nat.div_add_mod]

theorem exists_of_mem_toDigits {base n : Nat} (htwo : 2 ≤ base) {c : Char}
    (hc : c ∈ Nat.toDigits base n) : ∃ d, c = Nat.digitChar d := by
  induction n using Nat.strongRecOn with
  | ind n ih =>
    by_cases hn : n < base
    · rw [Nat.toDigits_of_lt_base hn, List.mem_singleton] at hc
      exact ⟨n, hc⟩
    · have hle := Nat.le_of_not_lt hn
      rw [Nat.toDigits_of_base_le htwo hle, List.mem_append, List.mem_singleton] at hc
      rcases hc with hc | hc
      · exact ih _ (Nat.div_lt_self (by omega) htwo) hc
      · exact ⟨_, hc⟩

theorem head?_toDigits_ten {n : Nat} (h : n ≠ 0) : (Nat.toDigits 10 n).head? ≠ some '0' := by
  induction n using Nat.strongRecOn with
  | ind n ih =>
    by_cases hn : n < 10
    · rw [Nat.toDigits_of_lt_base hn]
      simpa using h
    · have hrest := ih (n / 10) (by omega) (by omega)
      rw [Nat.toDigits_of_base_le (by decide) (Nat.le_of_not_lt hn)]
      cases hdigits : Nat.toDigits 10 (n / 10) with
      | nil => exact absurd hdigits Nat.toDigits_ne_nil
      | cons c rest =>
        rw [hdigits] at hrest
        exact hrest

theorem toDigits_ten_eq_cons (n : Nat) :
    ∃ c rest, Nat.toDigits 10 n = c :: rest ∧ c.isDigit = true ∧ (c = '0' → rest = []) := by
  cases hdigits : Nat.toDigits 10 n with
  | nil => exact absurd hdigits Nat.toDigits_ne_nil
  | cons c rest =>
    have hmem : c ∈ Nat.toDigits 10 n := hdigits ▸ List.mem_cons_self
    refine ⟨c, rest, rfl, Nat.isDigit_of_mem_toDigits (by decide) (by decide) hmem, ?_⟩
    rintro rfl
    by_cases hn : n = 0
    · subst hn
      exact (List.cons.inj hdigits).2.symm
    · exact absurd (congrArg List.head? hdigits) (head?_toDigits_ten hn)

end CarrierAuth.Text
