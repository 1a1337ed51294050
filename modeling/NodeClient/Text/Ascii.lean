/-
  NodeClient.Text.Ascii
  ─────────────────────
  Comparing texts up to the case of the 26 ASCII letters.  No other character has a case here:
  the long s and the dotless i equal themselves only.
-/
namespace NodeClient.Text

/-- Equality up to ASCII case. -/
def equalsIgnoringCase (s t : List Char) : Bool :=
  s.map Char.toLower == t.map Char.toLower

end NodeClient.Text
