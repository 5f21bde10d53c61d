/-
  Numbers in digits — in any base up to sixteen, with letters in either case.
-/
namespace CarrierAuth.Text

def digitValue? (c : Char) : Option Nat :=
  if c.isDigit then some (c.toNat - 48)
  else if 'a' ≤ c ∧ c ≤ 'f' then some (c.toNat - 87)
  else if 'A' ≤ c ∧ c ≤ 'F' then some (c.toNat - 55)
  else none

/-- The number of some digits in a base; `none` where there are no digits or one is no
digit of the base. -/
def digitsValue? (base : Nat) (digits : List Char) : Option Nat :=
  if digits.isEmpty then none
  else do
    let values ← digits.mapM fun d => (digitValue? d).filter (· < base)
    return values.foldl (base * · + ·) 0

end CarrierAuth.Text
