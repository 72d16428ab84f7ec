/-
Sums of double-precision numbers.
-/
import Standin.Number.Binary64

set_option autoImplicit false

namespace Standin.Number.Binary64

/-- A significand with its sign, in units of `2 ^ unit`, which is no larger than its own. -/
def inUnits (negative : Bool) (m : Nat) (e unit : Int) : Int :=
  let n : Int := (m * Nat.pow 2 (e - unit).toNat : Nat)
  if negative then -n else n

/-- The number nearest to the sum of two numbers, ties to even.  A sum of zero is positive unless
both numbers are negative zeros. -/
def add : Binary64 → Binary64 → Binary64
  | .finite n₁ m₁ e₁, .finite n₂ m₂ e₂ =>
    let unit := min e₁ e₂
    let sum := inUnits n₁ m₁ e₁ unit + inUnits n₂ m₂ e₂ unit
    if sum = 0 then .finite (n₁ && n₂) 0 minExponent
    else
      let (num, den) := scaleBy sum.natAbs 1 (-unit)
      ofRatio (decide (sum < 0)) num den
  | .nan, _ | _, .nan => .nan
  | .infinite a, .infinite b => if a = b then .infinite a else .nan
  | .infinite a, _ | _, .infinite a => .infinite a

end Standin.Number.Binary64
