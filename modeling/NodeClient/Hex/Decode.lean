/-
  NodeClient.Hex.Decode
  ─────────────────────
  Reading hex text: the marker and the quotes around the digits, then the digits as bytes of any
  number, as a fixed number of bytes, or as a 64-bit number.

  An odd number of digits is read as if one zero stood in front of them.
-/
import NodeClient.Decimal.Digits
import NodeClient.Hex.Digits
import NodeClient.Hex.Error

namespace NodeClient.Hex

/-! ## §1. What stands around the digits. -/

/-- The digits after the marker `0x`, which must be there in lower case. -/
def stripMarker : List Char → Except HexError (List Char)
  | [] => .error .missing
  | '0' :: 'x' :: digits => .ok digits
  | _ => .error .unmarked

/-- The bytes of a quote mark, and of a quote mark with the marker behind it. -/
def quoteByte : UInt8 := 0x22

/-- The bytes between the opening `"0x` and the closing quote of a raw string literal. -/
def literalBody : List UInt8 → Except HexError (List UInt8)
  | [] => .error .missing
  | 0x22 :: 0x30 :: 0x78 :: rest =>
      if rest.getLast? = some quoteByte then .ok rest.dropLast else .error .unclosed
  | _ => .error .unmarked

/-- The digits of a raw string literal such as `"0x1f"`, quotes included. Bytes between the
quotes which are no text are no digits either. -/
def stripLiteral (raw : List UInt8) : Except HexError (List Char) := do
  let body ← literalBody raw
  match String.fromUTF8? (ByteArray.mk body.toArray) with
  | some text => .ok text.toList
  | none => .error .notHex

/-! ## §2. Digits as bytes. -/

/-- The value of the byte of a hex digit. -/
def nibble? (b : UInt8) : Option Nat := digit? (Char.ofNat b.toNat)

/-- The bytes of digits, two for each; all must be digits, and none may be left over. -/
def pairUp? : List UInt8 → Option (List UInt8)
  | [] => some []
  | [_] => none
  | high :: low :: rest => do
      return UInt8.ofNat (16 * (← nibble? high) + (← nibble? low)) :: (← pairUp? rest)

/-- Digits, without marker, as bytes.  They are counted by the bytes of the text: to an odd number
comes a zero in front. -/
def decodeBytes (digits : List Char) : Except HexError (List UInt8) :=
  let raw := digits.flatMap String.utf8EncodeChar
  match pairUp? (if raw.length % 2 = 1 then 0x30 :: raw else raw) with
  | some bytes => .ok bytes
  | none => .error .notHex

/-! ## §3. A fixed number of bytes. -/

/-- Exactly `n` bytes, most significant first. -/
abbrev Bytes (n : Nat) := { bytes : List UInt8 // bytes.length = n }

/-- Bytes at the low-order end of a block of `n`, zeros before them. -/
def alignRight (n : Nat) (bytes : List UInt8) : Except HexError (Bytes n) :=
  if h : bytes.length ≤ n then
    .ok ⟨List.replicate (n - bytes.length) 0 ++ bytes, by simp; omega⟩
  else .error (.overlong n bytes.length)

/-- Digits, without marker, as a block of `n` bytes; leading zeros count against the width. -/
def decodeFixed (n : Nat) (digits : List Char) : Except HexError (Bytes n) := do
  alignRight n (← decodeBytes digits)

/-! ## §4. A 64-bit number. -/

/-- Digits behind an optional plus sign, of a value below `2^64`. -/
def u64? (s : List Char) : Option UInt64 :=
  let digits := Decimal.unsigned s
  if digits.isEmpty || !digits.all isDigit then none
  else if value digits < UInt64.size then some (UInt64.ofNat (value digits))
  else none

/-- Digits, without marker, as a 64-bit number; leading zeros do not count, but there must be a
digit. -/
def decodeU64 (digits : List Char) : Except HexError UInt64 :=
  if digits.isEmpty || !digits.all isDigit then .error .notHex
  else
    let significant := digits.dropWhile (· == '0')
    if significant.length > 16 then .error .overflow
    else if significant.isEmpty then .ok 0
    else
      match u64? significant with
      | some n => .ok n
      | none => .error .notHex

end NodeClient.Hex
