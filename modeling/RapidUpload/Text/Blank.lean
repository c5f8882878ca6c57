/-!
# Blank characters

The characters that may stand around a number in text: the space, the line and tab controls, and
the wider spaces of Unicode.
-/

namespace RapidUpload.Text

/-- The blank characters past ASCII. -/
def wideBlanks : List Nat := [
  0x85, 0xa0, 0x1680, 0x2000, 0x2001, 0x2002, 0x2003, 0x2004, 0x2005, 0x2006, 0x2007, 0x2008,
  0x2009, 0x200a, 0x2028, 0x2029, 0x202f, 0x205f, 0x3000]

/-- May stand around a number. -/
def isBlank (c : Char) : Bool :=
  c == ' ' || (9 ≤ c.toNat && c.toNat ≤ 13) || wideBlanks.contains c.toNat

end RapidUpload.Text
