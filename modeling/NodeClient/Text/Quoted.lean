/-
  NodeClient.Text.Quoted
  ──────────────────────
  The quoted form of a text in error messages.  A quote mark and a backslash stand behind a
  backslash, the common controls have a letter, and every other unprintable character is
  written by its code point: `\u\x7b200b\x7d`.
-/
import NodeClient.Text.Unprintable

namespace NodeClient.Text

/-- The letter that stands, behind a backslash, for a character. -/
def escapeLetter? : Char → Option Char
  | '"' => some '"'
  | '\\' => some '\\'
  | '\n' => some 'n'
  | '\r' => some 'r'
  | '\t' => some 't'
  | '\x00' => some '0'
  | _ => none

/-- The opening and the closing brace of a code point. -/
def braced (s : List Char) : List Char := Char.ofNat 0x7B :: s ++ [Char.ofNat 0x7D]

/-- One character in quoted form. -/
def quoteChar (c : Char) : List Char :=
  match escapeLetter? c with
  | some letter => ['\\', letter]
  | none =>
      if isUnprintable c then '\\' :: 'u' :: braced (Nat.toDigits 16 c.toNat) else [c]

/-- A text in quoted form. -/
def quote (s : String) : String :=
  String.ofList ('"' :: s.toList.flatMap quoteChar ++ ['"'])

end NodeClient.Text
