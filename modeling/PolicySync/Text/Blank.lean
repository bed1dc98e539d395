/-!
# Blank characters

`isBlank` holds of the white space of the Unicode standard, and `trim` drops it from both ends.
-/

namespace PolicySync.Text

/-- The white space characters: controls from tab to carriage return, next line, and the spaces
and separators of every width. -/
def isBlank (c : Char) : Bool :=
  let n := c.toNat
  (0x9 ≤ n && n ≤ 0xd) || n = 0x20 || n = 0x85 || n = 0xa0 || n = 0x1680
    || (0x2000 ≤ n && n ≤ 0x200a) || n = 0x2028 || n = 0x2029 || n = 0x202f || n = 0x205f
    || n = 0x3000

/-- The text without blanks at its start and its end. -/
def trim (cs : List Char) : List Char :=
  ((cs.dropWhile isBlank).reverse.dropWhile isBlank).reverse

end PolicySync.Text
