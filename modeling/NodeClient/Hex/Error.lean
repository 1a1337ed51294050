/-
  NodeClient.Hex.Error
  ────────────────────
  The ways in which a text fails to be the hex form of a value, and their wording.
-/
namespace NodeClient

/-- Why a text does not stand for a value in hex form. -/
inductive HexError where
  /-- There is no text at all. -/
  | missing
  /-- The text does not start with the marker `0x`. -/
  | unmarked
  /-- A quoted text has no closing quote. -/
  | unclosed
  /-- Some character is no hex digit, or a number has no digit at all. -/
  | notHex
  /-- The digits fill `actual` bytes where only `max` fit. -/
  | overlong (max actual : Nat)
  /-- The number needs more than 64 bits. -/
  | overflow
  deriving Repr, DecidableEq

namespace HexError

/-- The wording of each cause. -/
def message : HexError → String
  | missing => "missing value"
  | unmarked => "missing '0x' prefix"
  | unclosed => "missing closing quote"
  | notHex => "invalid hex digits"
  | overlong max actual =>
      "too many bytes: got " ++ toString actual ++ ", at most " ++ toString max ++ " allowed"
  | overflow => "value does not fit in 64 bits"

end HexError

end NodeClient
