/-
  NodeClient.Url.Path
  ───────────────────
  Paths of URLs.  Dot segments are resolved when a path is read: one dot names the segment it
  stands in, two dots the one above.  A dot may also be escaped.
-/
import NodeClient.Text.Ascii
import NodeClient.Text.Split
import NodeClient.Url.Escape

namespace NodeClient.Url

/-- Whether a segment is one dot. -/
def isSingleDot (s : List Char) : Bool :=
  ["." , "%2e"].any fun dot => Text.equalsIgnoringCase dot.toList s

/-- Whether a segment is two dots. -/
def isDoubleDot (s : List Char) : Bool :=
  ["..", ".%2e", "%2e.", "%2e%2e"].any fun dots => Text.equalsIgnoringCase dots.toList s

/-- Whether a segment names a drive, above which there is nothing. -/
def isDrive : List Char → Bool
  | [letter, mark] => letter.isAlpha && (mark == ':' || mark == '|')
  | _ => false

/-- The segments above the last one; the segments are listed from the last to the first. -/
def parent : List (List Char) → List (List Char)
  | [] => []
  | last :: above => if isDrive last then last :: above else above

/-- Resolves dot segments and escapes the others, below the segments that are resolved already,
which are listed from the last to the first.  A path that ends in dots ends in a slash. -/
def resolve (above : List (List Char)) : List (List Char) → List (List Char)
  | [] => above.reverse
  | [last] =>
      if isDoubleDot last then ([] :: parent above).reverse
      else if isSingleDot last then ([] :: above).reverse
      else (escape inPath last :: above).reverse
  | segment :: rest =>
      if isDoubleDot segment then resolve (parent above) rest
      else if isSingleDot segment then resolve above rest
      else resolve (escape inPath segment :: above) rest

/-- Whether a character separates segments; in web addresses a backslash does, too. -/
def isSlash (web : Bool) (c : Char) : Bool := c == '/' || (web && c == '\\')

/-- The path of segments in which dots may stand. -/
def pathOf (web : Bool) (s : List Char) : List Char :=
  let slashed := s.map fun c => if isSlash web c then '/' else c
  '/' :: Text.joinWith '/' (resolve [] (Text.splitAt '/' slashed))

end NodeClient.Url
