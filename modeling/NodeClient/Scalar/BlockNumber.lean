/-
  NodeClient.Scalar.BlockNumber
  ─────────────────────────────
  Block numbers, which are plain JSON numbers and written in decimal.
-/
import NodeClient.Codec.Basic

namespace NodeClient

/-- The number of a block. -/
structure BlockNumber where
  value : UInt64
  deriving DecidableEq, Inhabited

namespace BlockNumber

/-- The first block. -/
def genesis : BlockNumber := ⟨0⟩

/-- The decimal digits. -/
def text (n : BlockNumber) : String := toString n.value.toNat

/-- The decimal digits with a title around them. -/
def labelled (n : BlockNumber) : String := "BlockNumber(" ++ n.text ++ ")"

/-- Block numbers are JSON numbers. -/
def codec : Codec BlockNumber := Codec.u64.through BlockNumber.mk BlockNumber.value

end BlockNumber

end NodeClient
