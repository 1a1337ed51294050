/-
  NodeClient.Decimal.Shortest
  ───────────────────────────
  The fewest decimal digits that stand for a binary64 magnitude.

  On the grid of the decimals with `n` digits only the two neighbours of the magnitude have to
  be tried: if any point of the grid stands for it, one of these does.  The first `n` with a hit
  wins, of two hits the nearer, and of two equally near ones the even.
-/
import NodeClient.Decimal.Binary

namespace NodeClient.Decimal

/-- The whole number of grid steps `10^e` below or at the magnitude. -/
def Binary.stepsBelow (x : Binary) (e : Int) : Nat :=
  (x.mantissa * Nat.pow 2 x.exponent.toNat * Nat.pow 10 (-e).toNat)
    / (Nat.pow 2 (-x.exponent).toNat * Nat.pow 10 e.toNat)

/-- The least `k` with magnitude below `10^k`, for a magnitude other than zero. -/
def Binary.scale (x : Binary) : Int :=
  let estimate := ((x.mantissa.log2 : Int) + x.exponent) * 30103 / 100000
  let isAbove (k : Int) : Bool := compareScaled 1 k x.mantissa x.exponent == .gt
  ([estimate - 1, estimate, estimate + 1].find? isAbove).getD (estimate + 2)

/-- The decimal with grid step `10^e` that stands for the magnitude, if there is one. -/
def Binary.onGrid (x : Binary) (e : Int) : Option Scaled :=
  let below : Scaled := ⟨x.stepsBelow e, e⟩
  let above : Scaled := ⟨x.stepsBelow e + 1, e⟩
  match x.isReadFrom below, x.isReadFrom above with
  | true, true =>
      match compareScaled (2 * below.digits + 1) e (2 * x.mantissa) x.exponent with
      | .gt => some below
      | .lt => some above
      | .eq => some (if below.digits % 2 == 0 then below else above)
  | true, false => some below
  | false, true => some above
  | false, false => none

/-- Moves trailing zeros of the digits into the exponent. -/
def Scaled.strip : (fuel : Nat) → Scaled → Scaled
  | 0, d => d
  | fuel + 1, d =>
      if d.digits % 10 == 0 then strip fuel ⟨d.digits / 10, d.exponent + 1⟩ else d

/-- The shortest decimal that stands for a magnitude other than zero.  Seventeen digits always
suffice; should they not, the exact value is given. -/
def shortest (x : Binary) : Scaled :=
  let k := x.scale
  let grids := (List.range 17).map fun (n : Nat) => k - 1 - (n : Int)
  match grids.findSome? x.onGrid with
  | some d => d.strip 20
  | none =>
      ⟨x.mantissa * Nat.pow 2 x.exponent.toNat * Nat.pow 5 (-x.exponent).toNat, min x.exponent 0⟩

end NodeClient.Decimal
