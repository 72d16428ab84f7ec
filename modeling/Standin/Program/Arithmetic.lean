/-
Arithmetic of literal values.
-/
import Standin.Source.Tree
import Standin.Number.Sum

set_option autoImplicit false

namespace Standin.Source.Literal

/-- The number with the other sign. -/
def negateReal : Number.Binary64 → Number.Binary64
  | .finite negative m e => .finite (!negative) m e
  | .infinite negative => .infinite (!negative)
  | .nan => .nan

/-- A number with the other sign. -/
def negated : Literal → Option Literal
  | .int n => some (.int (-n))
  | .real x => some (.real (negateReal x))
  | .complex re im => some (.complex (negateReal re) (negateReal im))
  | _ => .none

/-- A real or complex number that is equal to a number. -/
def real? : Literal → Option Number.Binary64
  | .bool b => some (.ofRatio false (if b then 1 else 0) 1)
  | .int n => Number.Binary64.ofInt? n
  | .real x => some x
  | _ => .none

/-- The whole number that is equal to a truth value or a whole number. -/
def whole? : Literal → Option Int
  | .bool b => some (if b then 1 else 0)
  | .int n => some n
  | _ => .none

/-- The parts of a number. -/
def parts? : Literal → Option (Number.Binary64 × Number.Binary64)
  | .complex re im => some (re, im)
  | v => v.real?.map (·, .ofRatio false 0 1)

/-- The sum of two numbers, in the narrowest kind that has both. -/
def numberSum? (a b : Literal) : Option Literal :=
  match a.whole?, b.whole? with
  | some m, some n => some (.int (m + n))
  | _, _ =>
    match a.real?, b.real? with
    | some x, some y => some (.real (x.add y))
    | _, _ =>
      match a.parts?, b.parts? with
      | some (x, y), some (z, w) => some (.complex (x.add z) (y.add w))
      | _, _ => .none

/-- The sum of two values, if they can be added. -/
def sum? : Literal → Literal → Option Literal
  | .text s, .text t => some (.text (s ++ t))
  | .bytes s, .bytes t => some (.bytes (s ++ t))
  | a, b => a.numberSum? b

end Standin.Source.Literal
