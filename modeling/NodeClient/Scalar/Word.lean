/-
  NodeClient.Scalar.Word
  ──────────────────────
  The 32-byte values of the chain: hashes, addresses, field elements, public keys and roots.

  All five are blocks of 32 bytes, most significant byte first, written in canonical hex form.
  They differ only in what they are called, so they are one family indexed by their kind.
-/
import NodeClient.Codec.Basic
import NodeClient.Hex.Decode
import NodeClient.Hex.Encode

namespace NodeClient

/-- What a 32-byte value stands for. -/
inductive WordKind where
  | hash | address | fieldElement | publicKey | root
  deriving Repr, DecidableEq

namespace WordKind

/-- What error messages call a value of the kind. -/
def label : WordKind → String
  | hash => "hash"
  | address => "address"
  | fieldElement => "field element"
  | publicKey => "public key"
  | root => "root"

/-- The name in front of a value of the kind in labelled form. -/
def title : WordKind → String
  | hash => "Hash"
  | address => "Address"
  | fieldElement => "FieldElement"
  | publicKey => "PublicKey"
  | root => "Root"

end WordKind

/-- A 32-byte value of a kind. -/
structure Word (k : WordKind) where
  bytes : Hex.Bytes 32
  deriving DecidableEq

abbrev Hash := Word .hash
abbrev Address := Word .address
abbrev FieldElement := Word .fieldElement
abbrev PublicKey := Word .publicKey
abbrev Root := Word .root

namespace Word

variable {k : WordKind}

/-! ## §1. Values. -/

/-- The word whose bytes are all zero. -/
def zero : Word k := ⟨⟨List.replicate 32 0, by simp⟩⟩

instance : Inhabited (Word k) := ⟨zero⟩

/-- Whether all bytes are zero. -/
def isZero (w : Word k) : Bool := w == zero

/-- The number that the bytes denote. -/
def toNat (w : Word k) : Nat := Hex.bigEndianValue w.bytes.val

/-- At most 32 bytes at the low-order end. -/
def ofBytes (bytes : List UInt8) : Except HexError (Word k) :=
  (Hex.alignRight 32 bytes).map Word.mk

/-- Words are ordered by their bytes from the most significant one on. -/
instance : LT (Word k) := ⟨fun a b => a.bytes.val < b.bytes.val⟩

instance (a b : Word k) : Decidable (a < b) :=
  inferInstanceAs (Decidable (a.bytes.val < b.bytes.val))

/-! ## §2. Texts. -/

/-- The canonical hex form. -/
def chars (w : Word k) : List Char := Hex.canonical w.bytes.val

/-- The canonical hex form. -/
def text (w : Word k) : String := String.ofList w.chars

/-- The canonical form with the title of the kind around it. -/
def labelled (w : Word k) : String := k.title ++ "(" ++ w.text ++ ")"

/-- Reads the marker and at most 64 digits. -/
def ofChars (s : List Char) : Except HexError (Word k) := do
  let digits ← Hex.stripMarker s
  return ⟨← Hex.decodeFixed 32 digits⟩

/-- Reads the marker and at most 64 digits. -/
def parse (s : String) : Except HexError (Word k) := ofChars s.toList

/-- Reads a raw string literal with its quotes. -/
def ofLiteral (raw : List UInt8) : Except HexError (Word k) := do
  let digits ← Hex.stripLiteral raw
  return ⟨← Hex.decodeFixed 32 digits⟩

/-- Words are JSON strings in hex form. -/
def codec : Codec (Word k) :=
  .ofText "'0x' prefix followed by up to 64 hex digits"
    (fun s => (parse s).mapError fun e => "invalid " ++ k.label ++ ": " ++ e.message) text

end Word

end NodeClient
