/-
  Blank text — texts of white space only, where white space is the Unicode
  property `White_Space`.
-/
namespace CarrierAuth.Text

/-- The characters with the property `White_Space`. -/
def isWhiteSpace (c : Char) : Bool :=
  let n := c.toNat
  (0x9 ≤ n && n ≤ 0xd) || n == 0x20 || n == 0x85 || n == 0xa0 || n == 0x1680
    || (0x2000 ≤ n && n ≤ 0x200a) || n == 0x2028 || n == 0x2029 || n == 0x202f || n == 0x205f
    || n == 0x3000

/-- Whether a text is empty but for white space. -/
def isBlank (s : String) : Bool := s.toList.all isWhiteSpace

end CarrierAuth.Text
