/-
  NodeClient.Json.Real
  ────────────────────
  The text of a number that is no whole number of 64 bits, and the binary64 value of such a
  text.

  Written are the fewest digits that read back, positionally for magnitudes from `1e-5` up to
  `1e16` and otherwise with a signed exponent; a whole value keeps its `.0`.
-/
import NodeClient.Decimal.Digits
import NodeClient.Decimal.Shortest
import NodeClient.Json.Value

namespace NodeClient.Json

/-! ## §1. Writing. -/

/-- The decimal exponents of the leading digit that are written positionally. -/
def plainExponents : Int × Int := (-5, 15)

/-- A decimal, by its digits and the exponent of the leading one. -/
def layoutReal (digits : List Char) (leading : Int) : List Char :=
  let n := (digits.length : Int)
  if plainExponents.1 ≤ leading ∧ leading ≤ plainExponents.2 then
    if leading < 0 then
      '0' :: '.' :: List.replicate (-leading - 1).toNat '0' ++ digits
    else if n ≤ leading + 1 then
      digits ++ List.replicate (leading + 1 - n).toNat '0' ++ ['.', '0']
    else
      digits.take (leading + 1).toNat ++ '.' :: digits.drop (leading + 1).toNat
  else
    let fraction := match digits.drop 1 with
      | [] => []
      | rest => '.' :: rest
    let sign := if leading < 0 then '-' else '+'
    digits.take 1 ++ fraction ++ 'e' :: sign :: (toString leading.natAbs).toList

/-- The text of a finite binary64 value. -/
def realText (bits : UInt64) : String :=
  let sign := if bits >>> 63 == 1 then ['-'] else []
  let x := Decimal.Binary.ofBits (bits &&& 0x7FFFFFFFFFFFFFFF)
  let magnitude :=
    if x.mantissa == 0 then ['0', '.', '0']
    else
      let d := Decimal.shortest x
      let digits := (toString d.digits).toList
      layoutReal digits (d.exponent + (digits.length : Int) - 1)
  String.ofList (sign ++ magnitude)

/-- The text of a number. -/
def Number.text : Number → String
  | .integer n => toString n
  | .real bits => realText bits

/-! ## §2. Reading. -/

/-- A number as it is spelled. -/
structure Numeral where
  negative : Bool
  whole : List Char
  /-- The digits behind the point, if there is one. -/
  fraction : Option (List Char)
  /-- Whether the exponent is negative, and its digits, if there is one. -/
  exponent : Option (Bool × List Char)
  deriving Repr, DecidableEq

/-- Appends digits to a significand as long as it stays below `2^64`; with the number of digits
that went in. -/
def absorb (significand : Nat) : List Char → Nat × Nat
  | [] => (significand, 0)
  | c :: rest =>
      let next := 10 * significand + Decimal.digit c
      if next < UInt64.size then
        let (s, n) := absorb next rest
        (s, n + 1)
      else (significand, 0)

/-- A power of ten up to `10^308`. -/
def tenTo (n : Nat) : Float := Float.ofScientific 1 false n

/-- Divides by `10^n`, by at most `10^308` at a time. -/
def divideByTenTo (f : Float) (n : Nat) : Float :=
  if n ≤ 308 then f / tenTo n
  else if f == 0 then f
  else divideByTenTo (f / tenTo 308) (n - 308)
termination_by n

/-- `significand * 10^exponent`: the significand rounded, then one multiplication or division by
a power of ten.  None if that is beyond the finite values. -/
def scaleReal (significand : Nat) (exponent : Int) : Option Float :=
  let f := Float.ofScientific significand false 0
  if exponent < 0 then some (divideByTenTo f exponent.natAbs)
  else if exponent.toNat ≤ 308 then
    let scaled := f * tenTo exponent.toNat
    if scaled.isInf then none else some scaled
  else if f == 0 then some f
  else none

/-- The largest exponent that is told apart from an infinite one. -/
def exponentLimit : Nat := 0x7FFFFFFF

/-- The magnitude of a numeral as a binary64 value. -/
def Numeral.magnitude? (n : Numeral) : Option Float :=
  let (wholePart, taken) := absorb 0 n.whole
  let (significand, places) := absorb wholePart (n.fraction.getD [])
  let shift : Int := (n.whole.length - taken : Nat) - (places : Int)
  match n.exponent with
  | none => scaleReal significand shift
  | some (isNegative, digits) =>
      let e := Decimal.value digits
      if e > exponentLimit then
        if significand ≠ 0 && !isNegative then none else some 0
      else scaleReal significand (if isNegative then shift - e else shift + e)

/-- A numeral as a binary64 number. -/
def Numeral.real? (n : Numeral) : Option Number :=
  n.magnitude?.map fun f => .real (if n.negative then -f else f).toBits

/-- The number of a numeral: a whole number if it is spelled as one and fits, otherwise the
binary64 value; none if it is too large for that. -/
def Numeral.number? (n : Numeral) : Option Number :=
  match n.fraction, n.exponent with
  | none, none =>
      let v := Decimal.value n.whole
      if !n.negative && v < UInt64.size then some (.integer v)
      else if n.negative && v ≠ 0 && v ≤ 0x8000000000000000 then some (.integer (-v))
      else n.real?
  | _, _ => n.real?

end NodeClient.Json
