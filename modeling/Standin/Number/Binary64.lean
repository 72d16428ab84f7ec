/-
Double-precision numbers as exact values.

A finite number is a significand times a power of two, so every question about
it -- which decimal rounds to it, which decimals it can be written as -- is one
about natural numbers.  Nothing here uses the machine's floating point.
-/

set_option autoImplicit false

namespace Standin.Number

/-- A double-precision number.  `finite n m e` is `± m · 2 ^ e`; the constructors
of this file keep `m < 2 ^ 53` and `-1074 ≤ e`, with `2 ^ 52 ≤ m` unless `e = -1074`. -/
inductive Binary64 where
  | finite (negative : Bool) (significand : Nat) (exponent : Int)
  | infinite (negative : Bool)
  | nan
  deriving DecidableEq, Repr, Inhabited

namespace Binary64

/-- The exponent of the smallest positive number, and of every number below the normal ones. -/
def minExponent : Int := -1074

/-- The largest exponent of a finite number. -/
def maxExponent : Int := 971

/-- `num · 2 ^ (-e) / den` as a pair of natural numbers, numerator and denominator. -/
def scaleBy (num den : Nat) (e : Int) : Nat × Nat :=
  match e with
  | .ofNat k => (num, den * Nat.pow 2 k)
  | .negSucc k => (num * Nat.pow 2 (k + 1), den)

/-- The exponent that puts `num / den` between `2 ^ 52` and `2 ^ 53`, not below `minExponent`. -/
def exponentFor (num den : Nat) : Int :=
  let guess : Int := (num.log2 : Int) - (den.log2 : Int) - 52
  let (n, d) := scaleBy num den guess
  let e :=
    if n / d < Nat.pow 2 52 then guess - 1
    else if Nat.pow 2 53 ≤ n / d then guess + 1
    else guess
  max e minExponent

/-- The quotient of two natural numbers rounded to the nearest one, a tie to the even one. -/
def roundHalfEven (num den : Nat) : Nat :=
  let q := num / den
  let r := num % den
  if 2 * r < den then q
  else if den < 2 * r then q + 1
  else if q % 2 = 0 then q else q + 1

/-- The number nearest to `± num / den`, ties to even; beyond the largest one, an infinity. -/
def ofRatio (negative : Bool) (num den : Nat) : Binary64 :=
  if num = 0 then .finite negative 0 minExponent
  else
    let e := exponentFor num den
    let (n, d) := scaleBy num den e
    let m := roundHalfEven n d
    let (m, e) := if m = Nat.pow 2 53 then (Nat.pow 2 52, e + 1) else (m, e)
    if maxExponent < e then .infinite negative else .finite negative m e

/-- The number nearest to `± digits · 10 ^ exponent`.  `digitCount` is the number of digits of
`digits`; it decides the hopelessly large and small cases without forming the power. -/
def ofDecimal (negative : Bool) (digits : Nat) (exponent : Int) (digitCount : Nat) : Binary64 :=
  if digits = 0 then .finite negative 0 minExponent
  else if 400 < exponent + digitCount then .infinite negative
  else if exponent + digitCount < -400 then .finite negative 0 minExponent
  else
    match exponent with
    | .ofNat k => ofRatio negative (digits * Nat.pow 10 k) 1
    | .negSucc k => ofRatio negative digits (Nat.pow 10 (k + 1))

/-- The number nearest to an integer, or none when the integer is beyond every finite number. -/
def ofInt? (i : Int) : Option Binary64 :=
  match ofRatio (decide (i < 0)) i.natAbs 1 with
  | .infinite _ => none
  | x => some x

/-- Whether the number is one of the two zeros. -/
def isZero : Binary64 → Bool
  | .finite _ 0 _ => true
  | _ => false

/-- The integer equal to the number, if there is one. -/
def toInt? : Binary64 → Option Int
  | .finite neg m e =>
    match e with
    | .ofNat k => some (if neg then -(m * Nat.pow 2 k : Nat) else (m * Nat.pow 2 k : Nat))
    | .negSucc k =>
      if m % Nat.pow 2 (k + 1) = 0 then
        let q : Int := (m / Nat.pow 2 (k + 1) : Nat)
        some (if neg then -q else q)
      else none
  | _ => none

/-- Numeric equality: the two zeros are equal, and `nan` is not equal to itself. -/
def numEq : Binary64 → Binary64 → Bool
  | .finite _ 0 _, .finite _ 0 _ => true
  | .finite n₁ m₁ e₁, .finite n₂ m₂ e₂ => n₁ == n₂ && m₁ == m₂ && e₁ == e₂
  | .infinite n₁, .infinite n₂ => n₁ == n₂
  | _, _ => false

end Binary64

end Standin.Number
