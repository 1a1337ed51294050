/-
  NodeClient.Decimal.Nearest
  ──────────────────────────
  The binary64 value nearest to a whole number.

  A binary64 value keeps 53 binary digits.  A whole number with more of them is rounded to the
  nearest number that has only zeros behind the first 53, and half way between two of them to the
  one whose last digit that is kept is even.  What comes out is a whole number again.
-/
namespace NodeClient.Decimal

/-- What the last digit counts for that a binary64 value keeps of a whole number. -/
def lastPlace (n : Nat) : Nat := Nat.pow 2 (n.log2 - 52)

/-- How often a unit goes into a number, rounded to the nearest count; half way between two counts,
to the even one. -/
def nearestCount (n unit : Nat) : Nat :=
  let below := n / unit
  let rest := n % unit
  if 2 * rest < unit then below
  else if unit < 2 * rest then below + 1
  else if below % 2 = 0 then below
  else below + 1

/-- The binary64 value nearest to a whole number. -/
def nearestBinary (n : Nat) : Nat := nearestCount n (lastPlace n) * lastPlace n

end NodeClient.Decimal
