/-
  NodeClient.Scalar.Data
  ──────────────────────
  Binary data of any length in hex form.

  No bytes are written `0x`; otherwise the canonical form is that of the number the bytes
  denote, so zero bytes in front do not survive writing and reading back.
-/
import NodeClient.Codec.Basic
import NodeClient.Hex.Decode
import NodeClient.Hex.Encode

namespace NodeClient

/-- Binary data. -/
structure Data where
  bytes : List UInt8
  deriving DecidableEq, Inhabited

namespace Data

/-- Whether there are no bytes. -/
def isEmpty (d : Data) : Bool := d.bytes.isEmpty

/-- The hex form. -/
def chars (d : Data) : List Char :=
  if d.isEmpty then ['0', 'x'] else Hex.canonical d.bytes

/-- The hex form. -/
def text (d : Data) : String := String.ofList d.chars

/-- The hex form with a title around it. -/
def labelled (d : Data) : String := "Data(" ++ d.text ++ ")"

/-- Reads the marker and digits. -/
def ofChars (s : List Char) : Except HexError Data := do
  let digits ← Hex.stripMarker s
  return ⟨← Hex.decodeBytes digits⟩

/-- Reads the marker and digits. -/
def parse (s : String) : Except HexError Data := ofChars s.toList

/-- Reads a raw string literal with its quotes. -/
def ofLiteral (raw : List UInt8) : Except HexError Data := do
  let digits ← Hex.stripLiteral raw
  return ⟨← Hex.decodeBytes digits⟩

/-- Data are JSON strings in hex form. -/
def codec : Codec Data :=
  .ofText "'0x' prefix followed by hex digits"
    (fun s => (parse s).mapError fun e => "invalid data: " ++ e.message) text

end Data

end NodeClient
