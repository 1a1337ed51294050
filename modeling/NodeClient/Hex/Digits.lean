/-
  NodeClient.Hex.Digits
  ─────────────────────
  Hex digits, the number a digit text denotes, and the big-endian value of bytes.

  `Hex.value` and `bigEndianValue` are the two views that the decoders and the encoder of this
  folder are measured by: a digit text and the bytes it decodes to denote one number.
-/
namespace NodeClient.Hex

/-! ## §1. Digits. -/

/-- The value of a hex digit of either case. -/
def digit? (c : Char) : Option Nat :=
  if '0' ≤ c ∧ c ≤ '9' then some (c.toNat - 48)
  else if 'a' ≤ c ∧ c ≤ 'f' then some (c.toNat - 87)
  else if 'A' ≤ c ∧ c ≤ 'F' then some (c.toNat - 55)
  else none

/-- Holds for the 22 ASCII hex digits. -/
def isDigit (c : Char) : Bool := (digit? c).isSome

/-- The lower-case digit of a value below 16. -/
def digitChar (n : Nat) : Char :=
  if n < 10 then Char.ofNat (48 + n) else Char.ofNat (87 + n)

/-! ## §2. Denoted numbers. -/

/-- The number that a digit text denotes in base 16; no digits denote 0. -/
def value (digits : List Char) : Nat :=
  digits.foldl (fun n c => 16 * n + (digit? c).getD 0) 0

/-- The number that bytes denote, most significant byte first. -/
def bigEndianValue (bytes : List UInt8) : Nat :=
  bytes.foldl (fun n b => 256 * n + b.toNat) 0

/-- The low `width` bytes of a number, most significant first. -/
def bigEndian : (width : Nat) → Nat → List UInt8
  | 0, _ => []
  | width + 1, n => bigEndian width (n / 256) ++ [UInt8.ofNat n]

@[simp] theorem bigEndian_length (width n : Nat) : (bigEndian width n).length = width := by
  induction width generalizing n with
  | zero => rfl
  | succ k ih => simp [bigEndian, ih]

end NodeClient.Hex
