/-
  Octets — strings of octets, and the octets of a text.

  A text is measured and cut in UTF-8 octets: `octets` gives them, and `cut`
  splits a text after a number of octets, refusing a cut that falls inside a
  character.

  A part of a string of octets is given by counts of 64 bits. A sum of counts may
  wrap; `addCounts?` refuses one that does.
-/
namespace CarrierAuth

abbrev Octets := List UInt8

/-- The sum of two counts; `none` when it does not fit 64 bits. -/
def addCounts? (m n : UInt64) : Option UInt64 :=
  -- A sum that wraps is smaller than what it was added to.
  if m ≤ m + n then some (m + n) else none

/-- The octets from `start` up to `stop`; `none` when `start` comes after `stop` or
`stop` after the end of the data. -/
def slice? (data : Octets) (start stop : UInt64) : Option Octets :=
  if start ≤ stop ∧ stop.toNat ≤ data.length then
    some (data.extract start.toNat stop.toNat)
  else none

/-- The UTF-8 octets of a list of characters. -/
def octetsOf (cs : List Char) : Octets := cs.flatMap String.utf8EncodeChar

/-- The UTF-8 octets of a text. -/
def octets (s : String) : Octets := octetsOf s.toList

def octetLength (s : String) : Nat := (octets s).length

/-- Splits characters after `n` octets; `none` when there are fewer or when the
cut falls inside a character. -/
def cutChars : Nat → List Char → Option (List Char × List Char)
  | 0, cs => some ([], cs)
  | _ + 1, [] => none
  | n + 1, c :: cs =>
    if c.utf8Size ≤ n + 1 then
      (cutChars (n + 1 - c.utf8Size) cs).map fun (before, after) => (c :: before, after)
    else none

/-- Splits a text after `n` octets. -/
def cut (n : Nat) (s : String) : Option (String × String) :=
  (cutChars n s.toList).map fun (before, after) => (String.ofList before, String.ofList after)

/-- Cutting loses nothing. -/
theorem cutChars_append : ∀ (n : Nat) (cs before after : List Char),
    cutChars n cs = some (before, after) → cs = before ++ after
  | 0, cs, before, after, h => by
    simp only [cutChars, Option.some.injEq, Prod.mk.injEq] at h
    obtain ⟨rfl, rfl⟩ := h; rfl
  | _ + 1, [], _, _, h => by simp [cutChars] at h
  | n + 1, c :: cs, before, after, h => by
    simp only [cutChars] at h
    split at h
    · cases hc : cutChars (n + 1 - c.utf8Size) cs with
      | none => rw [hc] at h; simp at h
      | some p =>
        rw [hc] at h
        simp only [Option.map_some, Option.some.injEq, Prod.mk.injEq] at h
        obtain ⟨rfl, rfl⟩ := h
        rw [cutChars_append _ _ _ _ hc]; rfl
    · contradiction

end CarrierAuth
