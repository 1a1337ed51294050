/-
  NodeClient.Text.Utf8
  ────────────────────
  The text of bytes that need not be UTF-8.

  Whatever is no part of a character becomes the replacement character: one for each longest
  beginning of a character that is not continued, and one for each byte that begins none.
-/
namespace NodeClient.Text

/-- What stands for bytes without a character. -/
def replacement : Char := Char.ofNat 0xFFFD

/-- A character that has begun: its bits so far, how many bytes are missing, and between which
values the next one must lie. -/
structure Begun where
  bits : Nat
  missing : Nat
  low : Nat := 0x80
  high : Nat := 0xBF

/-- What a byte begins: a whole character, the beginning of one, or none. -/
inductive Lead where
  | whole (c : Char)
  | begun (b : Begun)
  | none

/-- What a byte begins.  The bounds of the second byte leave out overlong forms, surrogates and
what lies above the last character. -/
def leadOf (b : UInt8) : Lead :=
  let n := b.toNat
  if n < 0x80 then .whole (Char.ofNat n)
  else if 0xC2 ≤ n ∧ n ≤ 0xDF then .begun { bits := n - 0xC0, missing := 1 }
  else if n = 0xE0 then .begun { bits := 0, missing := 2, low := 0xA0 }
  else if n = 0xED then .begun { bits := 13, missing := 2, high := 0x9F }
  else if 0xE1 ≤ n ∧ n ≤ 0xEF then .begun { bits := n - 0xE0, missing := 2 }
  else if n = 0xF0 then .begun { bits := 0, missing := 3, low := 0x90 }
  else if 0xF1 ≤ n ∧ n ≤ 0xF3 then .begun { bits := n - 0xF0, missing := 3 }
  else if n = 0xF4 then .begun { bits := 4, missing := 3, high := 0x8F }
  else .none

/-- What a byte outside a character adds to the text, and the character it begins. -/
def outside (b : UInt8) : List Char × Option Begun :=
  match leadOf b with
  | .whole c => ([c], Option.none)
  | .begun x => ([], some x)
  | .none => ([replacement], Option.none)

/-- What a byte adds to the text, and the character that has begun afterwards. -/
def absorbByte (begun : Option Begun) (b : UInt8) : List Char × Option Begun :=
  match begun with
  | Option.none => outside b
  | some x =>
      if x.low ≤ b.toNat ∧ b.toNat ≤ x.high then
        let bits := x.bits * 64 + (b.toNat - 0x80)
        if x.missing ≤ 1 then ([Char.ofNat bits], Option.none)
        else ([], some { bits, missing := x.missing - 1 })
      else
        let (cs, next) := outside b
        (replacement :: cs, next)

/-- The text of bytes behind a character that has begun. -/
def charsFrom (begun : Option Begun) : List UInt8 → List Char
  | [] => if begun.isSome then [replacement] else []
  | b :: rest =>
      let (cs, next) := absorbByte begun b
      cs ++ charsFrom next rest

/-- The text of bytes. -/
def ofBytes (bytes : List UInt8) : String := String.ofList (charsFrom none bytes)

end NodeClient.Text
