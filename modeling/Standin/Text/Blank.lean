/-
White space, and cutting it off both ends of a text.
-/

set_option autoImplicit false

namespace Standin.Text

/-- White space in the sense of the character database: the separators, the line and paragraph
breaks, and the control characters that move the position or separate records. -/
def isBlank (c : Char) : Bool :=
  let n := c.toNat
  (9 ≤ n && n ≤ 13) || (28 ≤ n && n ≤ 32) || n == 0x85 || n == 0xa0 || n == 0x1680 ||
    (0x2000 ≤ n && n ≤ 0x200a) || n == 0x2028 || n == 0x2029 || n == 0x202f || n == 0x205f ||
    n == 0x3000

/-- The text without the white space at its end. -/
def stripRight (cs : List Char) : List Char :=
  (cs.reverse.dropWhile isBlank).reverse

/-- The text without the white space at either end. -/
def stripChars (cs : List Char) : List Char :=
  stripRight (cs.dropWhile isBlank)

/-- The text without the white space at either end. -/
def strip (s : String) : String :=
  String.ofList (stripChars s.toList)

end Standin.Text
