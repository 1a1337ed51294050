/-
  NodeClient.Text.Blank
  ─────────────────────
  White space in the sense of the Unicode property of that name (25 characters), and texts
  freed from it at both ends.
-/
import NodeClient.Text.Ranges

namespace NodeClient.Text

/-- The code points with the property White_Space. -/
def blankRanges : Ranges :=
  [(0x09, 0x0D), (0x20, 0x20), (0x85, 0x85), (0xA0, 0xA0), (0x1680, 0x1680), (0x2000, 0x200A),
   (0x2028, 0x2029), (0x202F, 0x202F), (0x205F, 0x205F), (0x3000, 0x3000)]

/-- White space; in particular the zero-width space U+200B is none. -/
def isBlank (c : Char) : Bool := blankRanges.has c.toNat

/-- A text without the white space at its ends. -/
def trim (s : List Char) : List Char :=
  ((s.dropWhile isBlank).reverse.dropWhile isBlank).reverse

end NodeClient.Text
