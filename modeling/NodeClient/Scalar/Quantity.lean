/-
  NodeClient.Scalar.Quantity
  ──────────────────────────
  The 64-bit values of the chain that are written in hex form: amounts and numbers.
-/
import NodeClient.Codec.Basic
import NodeClient.Hex.Decode
import NodeClient.Hex.Encode

namespace NodeClient

/-- What a 64-bit value stands for. -/
inductive QuantityKind where
  | amount | number
  deriving Repr, DecidableEq

namespace QuantityKind

/-- What error messages call a value of the kind. -/
def label : QuantityKind → String
  | amount => "amount"
  | number => "number"

/-- The name in front of a value of the kind in labelled form. -/
def title : QuantityKind → String
  | amount => "Amount"
  | number => "Number"

end QuantityKind

/-- A 64-bit value of a kind. -/
structure Quantity (k : QuantityKind) where
  value : UInt64
  deriving DecidableEq, Inhabited

abbrev Amount := Quantity .amount
abbrev Number := Quantity .number

namespace Quantity

variable {k : QuantityKind}

/-! ## §1. Values. -/

/-- The quantity zero. -/
def zero : Quantity k := ⟨0⟩

/-- Whether the quantity is zero. -/
def isZero (q : Quantity k) : Bool := q.value == 0

/-- The quantity as a number. -/
def toNat (q : Quantity k) : Nat := q.value.toNat

instance : LT (Quantity k) := ⟨fun a b => a.value < b.value⟩

instance (a b : Quantity k) : Decidable (a < b) :=
  inferInstanceAs (Decidable (a.value < b.value))

/-! ## §2. Texts. -/

/-- The canonical hex form. -/
def chars (q : Quantity k) : List Char := Hex.canonicalU64 q.value

/-- The canonical hex form. -/
def text (q : Quantity k) : String := String.ofList q.chars

/-- The canonical form with the title of the kind around it. -/
def labelled (q : Quantity k) : String := k.title ++ "(" ++ q.text ++ ")"

/-- Reads the marker and at most 16 significant digits. -/
def ofChars (s : List Char) : Except HexError (Quantity k) := do
  let digits ← Hex.stripMarker s
  return ⟨← Hex.decodeU64 digits⟩

/-- Reads the marker and at most 16 significant digits. -/
def parse (s : String) : Except HexError (Quantity k) := ofChars s.toList

/-- Reads a raw string literal with its quotes. -/
def ofLiteral (raw : List UInt8) : Except HexError (Quantity k) := do
  let digits ← Hex.stripLiteral raw
  return ⟨← Hex.decodeU64 digits⟩

/-- Quantities are JSON strings in hex form. -/
def codec : Codec (Quantity k) :=
  .ofText "'0x' prefix followed by up to 16 significant hex digits"
    (fun s => (parse s).mapError fun e => "invalid " ++ k.label ++ ": " ++ e.message) text

end Quantity

end NodeClient
