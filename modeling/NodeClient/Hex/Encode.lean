/-
  NodeClient.Hex.Encode
  ─────────────────────
  The canonical hex form: `0x` and lower-case digits, the first of them not zero, and `0x0` for
  the value zero.
-/
import NodeClient.Hex.Digits

namespace NodeClient.Hex

/-- The two digit values of a byte. -/
def nibbles (b : UInt8) : List Nat := [b.toNat / 16, b.toNat % 16]

/-- Bytes as plain digits, two for each byte. -/
def plain (bytes : List UInt8) : List Char := (bytes.flatMap nibbles).map digitChar

/-- The canonical form of the number that the bytes denote.  Zero bytes in front go, and so does
the upper digit of the first byte that stays if it is zero. -/
def canonical (bytes : List UInt8) : List Char :=
  match bytes.dropWhile (· == 0) with
  | [] => ['0', 'x', '0']
  | first :: rest =>
      if first.toNat / 16 = 0 then '0' :: 'x' :: digitChar (first.toNat % 16) :: plain rest
      else '0' :: 'x' :: plain (first :: rest)

/-- The canonical form of a 64-bit number. -/
def canonicalU64 (n : UInt64) : List Char := canonical (bigEndian 8 n.toNat)

end NodeClient.Hex
