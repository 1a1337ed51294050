/-
  NodeClient.Decimal.Binary
  ─────────────────────────
  Binary64 magnitudes as exact numbers, and the decimals that stand for them.

  A magnitude is `mantissa * 2^exponent`.  A decimal stands for it when the reals nearest to the
  magnitude include it: everything up to half way to either neighbour, the half-way points
  themselves exactly when the mantissa is even.
-/
namespace NodeClient.Decimal

/-- A finite binary64 magnitude `mantissa * 2^exponent`. -/
structure Binary where
  mantissa : Nat
  exponent : Int
  /-- The gap to the magnitude below is half the gap to the one above. -/
  narrowBelow : Bool
  deriving Repr, DecidableEq

/-- The magnitude with the given bits, which are not those of an infinity or of no number. -/
def Binary.ofBits (bits : UInt64) : Binary :=
  let e := ((bits >>> 52) &&& 0x7FF).toNat
  let f := (bits &&& 0xFFFFFFFFFFFFF).toNat
  if e == 0 then ⟨f, -1074, false⟩ else ⟨0x10000000000000 + f, (e : Int) - 1075, f == 0 && e > 1⟩

/-- A decimal `digits * 10^exponent`. -/
structure Scaled where
  digits : Nat
  exponent : Int
  deriving Repr, DecidableEq

/-- Compares `a * 10^i` with `b * 2^j`, exactly. -/
def compareScaled (a : Nat) (i : Int) (b : Nat) (j : Int) : Ordering :=
  compare (a * Nat.pow 10 i.toNat * Nat.pow 2 (-j).toNat)
    (b * Nat.pow 2 j.toNat * Nat.pow 10 (-i).toNat)

/-- Whether a decimal lies among the reals that round to the magnitude. -/
def Binary.isReadFrom (x : Binary) (d : Scaled) : Bool :=
  let low := if x.narrowBelow then 4 * x.mantissa - 1 else 4 * x.mantissa - 2
  let high := 4 * x.mantissa + 2
  let ends := x.mantissa % 2 == 0
  let atLow := compareScaled d.digits d.exponent low (x.exponent - 2)
  let atHigh := compareScaled d.digits d.exponent high (x.exponent - 2)
  (atLow == .gt || (ends && atLow == .eq)) && (atHigh == .lt || (ends && atHigh == .eq))

end NodeClient.Decimal
