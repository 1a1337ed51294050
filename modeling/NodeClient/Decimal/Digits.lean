/-
  NodeClient.Decimal.Digits
  ─────────────────────────
  Decimal digits and the number that a text of them denotes.
-/
namespace NodeClient.Decimal

/-- Holds for the ten ASCII digits. -/
def isDigit (c : Char) : Bool := '0' ≤ c && c ≤ '9'

/-- The value of a decimal digit. -/
def digit (c : Char) : Nat := c.toNat - 48

/-- The number that decimal digits denote. -/
def value (digits : List Char) : Nat :=
  digits.foldl (fun n c => 10 * n + digit c) 0

/-- The number of a text of one or more digits, and nothing else. -/
def value? (s : List Char) : Option Nat :=
  if s.isEmpty || !s.all isDigit then none else some (value s)

/-- The text without an optional plus sign in front. -/
def unsigned : List Char → List Char
  | '+' :: rest => rest
  | s => s

/-- Decimal digits behind an optional plus sign, of a value below `2^64`. -/
def u64? (s : List Char) : Option UInt64 :=
  match value? (unsigned s) with
  | some n => if n < UInt64.size then some (UInt64.ofNat n) else none
  | none => none

end NodeClient.Decimal
