/-
The shortest decimal that reads back as a given double.

A decimal reads back as `m · 2 ^ e` when it lies in the interval of reals that
round to it.  Among the decimals of 1, 2, ... digits only the two neighbours of
the value on that grid can be in the interval if any is, so testing those two
for each length, in exact arithmetic, finds the shortest one.
-/
import Standin.Number.Binary64

set_option autoImplicit false

namespace Standin.Number

/-- A positive decimal `0.d₁d₂… · 10 ^ point`, as the integer `d₁d₂…` of `count` digits. -/
structure Decimal where
  digits : Nat
  count : Nat
  point : Int
  deriving DecidableEq, Repr, Inhabited

namespace Decimal

/-- `num / den · 10 ^ k` as a pair of natural numbers. -/
def scaleTen (num den : Nat) (k : Int) : Nat × Nat :=
  match k with
  | .ofNat j => (num * Nat.pow 10 j, den)
  | .negSucc j => (num, den * Nat.pow 10 (j + 1))

/-- The least `j` with `den ≤ num · 10 ^ j`, looking at no more than `fuel` values. -/
def leadingZeros (num den : Nat) : Nat → Nat
  | 0 => 0
  | fuel + 1 => if den ≤ num then 0 else leadingZeros (num * 10) den fuel + 1

/-- The `p` with `10 ^ (p - 1) ≤ num / den < 10 ^ p`. -/
def pointOf (num den : Nat) : Int :=
  if den ≤ num then ((Nat.toDigits 10 (num / den)).length : Int)
  else 1 - (leadingZeros num den 400 : Int)

/-- The interval of reals that round to one double, all four in units of a quarter of its last
place: the value, the two ends, and whether the ends belong to it. -/
structure Rounding where
  value : Nat
  low : Nat
  high : Nat
  closed : Bool

/-- The rounding interval of `significand · 2 ^ exponent`.  Below a power of two the spacing
halves, so the lower end is only a quarter away there. -/
def Rounding.of (significand : Nat) (exponent : Int) : Rounding :=
  { value := 4 * significand
    low := if significand = Nat.pow 2 52 ∧ Binary64.minExponent < exponent
      then 4 * significand - 1 else 4 * significand - 2
    high := 4 * significand + 2
    closed := significand % 2 = 0 }

/-- Whether `num / den`, in the interval's units, lies in the interval. -/
def Rounding.mem (r : Rounding) (num den : Nat) : Bool :=
  if r.closed then r.low * den ≤ num && num ≤ r.high * den
  else r.low * den < num && num < r.high * den

/-- The decimal of `count` digits in the rounding interval that is nearest to the value. -/
def atLength? (r : Rounding) (unitNum unitDen : Nat) (point : Int) (count : Nat) :
    Option Decimal :=
  -- One step of the grid, in units of the interval, is `stepNum / stepDen`.
  let (stepNum, stepDen) := scaleTen unitDen unitNum (point - count)
  let below := r.value * stepDen / stepNum
  let above := below + 1
  let hit (d : Nat) : Bool := r.mem (d * stepNum) stepDen
  let lowGap := r.value * stepDen - below * stepNum
  let highGap := above * stepNum - r.value * stepDen
  let pick (d : Nat) : Decimal :=
    if d = Nat.pow 10 count then ⟨Nat.pow 10 (count - 1), count, point + 1⟩ else ⟨d, count, point⟩
  match hit below, hit above with
  | true, true =>
    if lowGap < highGap then some (pick below)
    else if highGap < lowGap then some (pick above)
    else some (pick (if below % 2 = 0 then below else above))
  | true, false => some (pick below)
  | false, true => some (pick above)
  | false, false => none

/-- The shortest decimal that reads back as `significand · 2 ^ exponent`, nearest among those. -/
def shortest (significand : Nat) (exponent : Int) : Decimal :=
  let r := Rounding.of significand exponent
  let (unitDen, unitNum) := Binary64.scaleBy 1 1 (exponent - 2)
  let point := pointOf (r.value * unitNum) unitDen
  match (List.range 17).findSome? fun i => atLength? r unitNum unitDen point (i + 1) with
  | some d => d
  | none => ⟨significand, 1, point⟩

/-- The digits as text, padded on the left to `count` places. -/
def text (d : Decimal) : String :=
  let ds := Nat.toDigits 10 d.digits
  String.ofList (List.replicate (d.count - ds.length) '0' ++ ds)

end Decimal

/-- How numbers are written: positional for a decimal point between these two places, otherwise
with an exponent of at least two digits. -/
structure NumberFormat where
  minPoint : Int
  maxPoint : Int
  keepPointZero : Bool

/-- Real literals are written positionally from `1e-4` up to `1e16`, always with a point. -/
def NumberFormat.real : NumberFormat := ⟨-3, 16, true⟩

/-- Parts of complex literals drop a fraction that is zero. -/
def NumberFormat.imaginary : NumberFormat := ⟨-3, 16, false⟩

namespace NumberFormat

/-- The text of a positive decimal. -/
def writeDecimal (f : NumberFormat) (d : Decimal) : String :=
  let ds := d.text.toList
  let n : Int := ds.length
  if d.point < f.minPoint ∨ f.maxPoint < d.point then
    let e := d.point - 1
    let mantissa := match ds with
      | [] => "0"
      | [c] => String.ofList [c]
      | c :: rest => String.ofList (c :: '.' :: rest)
    let ed := Nat.toDigits 10 e.natAbs
    let ed := if ed.length < 2 then '0' :: ed else ed
    mantissa ++ (if e < 0 then "e-" else "e+") ++ String.ofList ed
  else if d.point ≤ 0 then
    "0." ++ String.ofList (List.replicate d.point.natAbs '0' ++ ds)
  else if n ≤ d.point then
    String.ofList (ds ++ List.replicate (d.point - n).natAbs '0') ++
      (if f.keepPointZero then ".0" else "")
  else
    String.ofList (ds.take d.point.natAbs) ++ "." ++ String.ofList (ds.drop d.point.natAbs)

/-- The text of a number, with its sign. -/
def write (f : NumberFormat) : Binary64 → String
  | .nan => "nan"
  | .infinite neg => if neg then "-inf" else "inf"
  | .finite neg m e =>
    (if neg then "-" else "") ++
      (if m = 0 then (if f.keepPointZero then "0.0" else "0")
       else f.writeDecimal (Decimal.shortest m e))

end NumberFormat

end Standin.Number
