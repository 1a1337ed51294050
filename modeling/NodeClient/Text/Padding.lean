/-
  NodeClient.Text.Padding
  ───────────────────────
  A text laid out in a field: cut to a greatest length, then filled up to a least one.
-/
namespace NodeClient.Text

/-- Where a text stands in a wider field. -/
inductive Alignment where
  | left | right | center
  deriving Repr, DecidableEq

/-- How a text is laid out in a field. -/
structure Layout where
  /-- What the field is filled up with. -/
  fill : Char := ' '
  alignment : Alignment := .left
  /-- The least number of characters. -/
  width : Nat := 0
  /-- The greatest number of characters of the text that are kept. -/
  limit : Option Nat := none
  deriving Repr, DecidableEq

namespace Layout

/-- The fill before and behind a text that lacks `n` characters; the odd one of a centred text
goes behind it. -/
def margins (l : Layout) (n : Nat) : Nat × Nat :=
  match l.alignment with
  | .left => (0, n)
  | .right => (n, 0)
  | .center => (n / 2, n - n / 2)

/-- Lays a text out. -/
def apply (l : Layout) (text : List Char) : List Char :=
  let kept := match l.limit with
    | some n => text.take n
    | none => text
  let (before, behind) := l.margins (l.width - kept.length)
  List.replicate before l.fill ++ kept ++ List.replicate behind l.fill

/-- A layout as it is asked for: a fill character with `<`, `>` or `^`, the sign alone, or
nothing. -/
def ofSign? (sign : List Char) : Option Layout :=
  let alignment? : Char → Option Alignment
    | '<' => some .left
    | '>' => some .right
    | '^' => some .center
    | _ => none
  match sign with
  | [] => some {}
  | [a] => (alignment? a).map fun alignment => { alignment }
  | [fill, a] => (alignment? a).map fun alignment => { fill, alignment }
  | _ => none

end Layout

end NodeClient.Text
