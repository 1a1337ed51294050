/-
  NodeClient.Text.Ranges
  ──────────────────────
  Classes of characters given as closed ranges of code points.
-/
namespace NodeClient.Text

/-- Closed ranges of code points, ascending. -/
abbrev Ranges := List (Nat × Nat)

/-- Whether a code point lies in one of the ranges. -/
def Ranges.has (ranges : Ranges) (n : Nat) : Bool :=
  ranges.any fun (first, last) => first ≤ n && n ≤ last

end NodeClient.Text
