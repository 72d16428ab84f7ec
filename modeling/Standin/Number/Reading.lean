/-
Reading a real number from its text.
-/
import Standin.Number.Binary64

set_option autoImplicit false

namespace Standin.Number.Binary64

/-- The natural number that decimal digits spell; other characters count as zero. -/
def digitsValue (cs : List Char) : Nat :=
  cs.foldl (fun n c => 10 * n + (if c.isDigit then c.toNat - 48 else 0)) 0

/-- The sign before a number, and the rest. -/
def splitSign : List Char → Bool × List Char
  | '-' :: rest => (true, rest)
  | '+' :: rest => (false, rest)
  | cs => (false, cs)

/-- The number of a decimal text without sign: digits, a point with digits, an exponent; of the
digits before and after the point one may be missing. -/
def unsigned? (negative : Bool) (cs : List Char) : Option Binary64 := do
  let whole := cs.takeWhile Char.isDigit
  let rest := cs.dropWhile Char.isDigit
  let (fraction, rest) := match rest with
    | '.' :: rest => (rest.takeWhile Char.isDigit, rest.dropWhile Char.isDigit)
    | _ => ([], rest)
  if whole.isEmpty && fraction.isEmpty then none
  let exponent ← match rest with
    | [] => some (0 : Int)
    | c :: rest =>
      if c = 'e' ∨ c = 'E' then
        let (neg, ds) := splitSign rest
        if ds.isEmpty || !ds.all Char.isDigit then none
        else
          let n : Int := digitsValue ds
          some (if neg then -n else n)
      else none
  let significant := (whole ++ fraction).dropWhile (· == '0')
  some (ofDecimal negative (digitsValue significant) (exponent - (fraction.length : Int))
    significant.length)

/-- The number of a text: a decimal with an optional sign, `inf` or `nan`. -/
def ofText? (s : String) : Option Binary64 :=
  let (negative, cs) := splitSign s.toList
  if cs = ['i', 'n', 'f'] then some (.infinite negative)
  else if cs = ['n', 'a', 'n'] then some .nan
  else unsigned? negative cs

end Standin.Number.Binary64
