import CarrierAuth.Proofs.Text.Digits
import CarrierAuth.Text.Quoted
import Mathlib.Data.List.Basic

/-
  Quoted text is read back — a text in quotes gives the whole text away.

  What is proved:
    1. `readCode_toDigits` — the code point of an escape is read up to the closing brace.
    2. `readChar_escapeChar` — an escaped character is read back, with whatever
       follows it.
    3. `quote_append_inj` — where a quoted text begins a message, the message determines
       both the text and what follows the closing quote.
-/
namespace CarrierAuth.Text

/-! ## Reading back -/

/-- The character given by its code point, and what follows the closing brace. -/
def readCode (text : List Char) : Option (Char × List Char) :=
  let digits := text.takeWhile (· ≠ '\x7d')
  (digitsValue? 16 digits).map fun code => (Char.ofNat code, text.drop (digits.length + 1))

/-- The character that a text in double quotes begins with, and what follows it; `none`
at the closing quote. -/
def readChar : List Char → Option (Char × List Char)
  | '"' :: _ => none
  | '\\' :: 'n' :: rest => some ('\n', rest)
  | '\\' :: 'r' :: rest => some ('\r', rest)
  | '\\' :: 't' :: rest => some ('\t', rest)
  | '\\' :: '0' :: rest => some ('\x00', rest)
  | '\\' :: 'u' :: '\x7b' :: rest => readCode rest
  | '\\' :: c :: rest => some (c, rest)
  | c :: rest => some (c, rest)
  | [] => none

theorem readCode_toDigits (c : Char) (rest : List Char) :
    readCode (Nat.toDigits 16 c.toNat ++ '\x7d' :: rest) = some (c, rest) := by
  have hdigits : (Nat.toDigits 16 c.toNat ++ '\x7d' :: rest).takeWhile (· ≠ '\x7d') =
      Nat.toDigits 16 c.toNat := by
    rw [List.takeWhile_append_of_pos]
    · simp
    · intro d hd
      rw [decide_eq_true_eq]
      intro heq
      obtain ⟨n, hn⟩ := exists_of_mem_toDigits (by decide) hd
      exact Nat.digitChar_ne '\x7d' rfl (hn.symm.trans heq)
  rw [readCode, hdigits, digitsValue?_toDigits (by decide) (by decide)]
  simp [Char.ofNat_toNat]

theorem readChar_escapeChar (c : Char) (rest : List Char) :
    readChar (escapeChar '"' c ++ rest) = some (c, rest) := by
  rw [escapeChar]
  -- The cases follow the tests of `escapeChar`, in their order.
  by_cases hmark : c = '"' ∨ c = '\\'
  · obtain rfl | rfl := hmark <;> rfl
  · obtain ⟨hquote, hslash⟩ := not_or.mp hmark
    rw [if_neg hmark]
    by_cases hn : c = '\n'
    · subst hn
      rfl
    by_cases hr : c = '\r'
    · subst hr
      rfl
    by_cases ht : c = '\t'
    · subst ht
      rfl
    by_cases h0 : c = '\x00'
    · subst h0
      rfl
    rw [if_neg hn, if_neg hr, if_neg ht, if_neg h0]
    by_cases hhidden : isHidden c = true
    · rw [if_pos hhidden, codeEscape, List.append_assoc, List.append_assoc]
      exact readCode_toDigits c rest
    · rw [if_neg hhidden]
      simp [readChar, hslash]

theorem escaped_append_inj {s t u v : List Char}
    (h : s.flatMap (escapeChar '"') ++ '"' :: u = t.flatMap (escapeChar '"') ++ '"' :: v) :
    s = t ∧ u = v := by
  -- Reading one character takes the same off both sides, until one of them closes.
  induction s generalizing t with
  | nil =>
    cases t with
    | nil => exact ⟨rfl, (List.cons.inj h).2⟩
    | cons d t =>
      have hread := congrArg readChar h
      rw [List.flatMap_cons, List.append_assoc, readChar_escapeChar] at hread
      contradiction
  | cons c s ih =>
    have hread := congrArg readChar h
    rw [List.flatMap_cons, List.append_assoc, readChar_escapeChar] at hread
    cases t with
    | nil => contradiction
    | cons d t =>
      rw [List.flatMap_cons, List.append_assoc, readChar_escapeChar] at hread
      obtain ⟨rfl, hrest⟩ := Prod.mk.inj (Option.some.inj hread)
      obtain ⟨rfl, rfl⟩ := ih hrest
      exact ⟨rfl, rfl⟩

/-- A quoted text at the beginning of a message is determined by the message, and so is
what follows it. -/
theorem quote_append_inj {s t u v : String} (h : quote s ++ u = quote t ++ v) :
    s = t ∧ u = v := by
  have hlist := congrArg String.toList h
  simp only [quote, String.toList_append, String.toList_ofList, List.cons_append,
    List.nil_append, List.append_assoc, List.cons.injEq, true_and] at hlist
  obtain ⟨hs, hu⟩ := escaped_append_inj hlist
  exact ⟨String.toList_injective hs, String.toList_injective hu⟩

end CarrierAuth.Text
