/-
Numerals.

Digits may be grouped by single underscores.  A numeral ends where no further
character of it follows, and what follows must not look like part of a word,
except for the words that may stand right after a value.
-/
import Standin.Source.Tree
import Standin.Text.CharTable

set_option autoImplicit false

namespace Standin.Source.Numeral

open Standin.Number (Binary64)
open Standin.Text (hexDigit?)

/-- The digits of one numeral at the head of a text, without the underscores between them, and
the rest.  An underscore must be followed by a digit. -/
def digitRun (isDigit : Char → Bool) : List Char → Option (List Char × List Char)
  | [] => some ([], [])
  | c :: rest =>
    if isDigit c then (digitRun isDigit rest).map fun (ds, rest) => (c :: ds, rest)
    else if c = '_' then
      match rest with
      | d :: _ => if isDigit d then digitRun isDigit rest else none
      | [] => none
    else some ([], c :: rest)

/-- The digits of a numeral that must have some. -/
def digitRun₁ (isDigit : Char → Bool) (cs : List Char) : Option (List Char × List Char) :=
  match digitRun isDigit cs with
  | some ([], _) => none
  | r => r

/-- The natural number that digits spell in a base. -/
def valueOf (base : Nat) (ds : List Char) : Nat :=
  ds.foldl (fun n c => base * n + (hexDigit? c).getD 0) 0

def isBinary (c : Char) : Bool := c == '0' || c == '1'

def isOctal (c : Char) : Bool := '0' ≤ c && c ≤ '7'

def isHex (c : Char) : Bool := (hexDigit? c).isSome

/-- The beginnings of the words that may follow a numeral without a blank: `and`, `else`, `for`,
`if`, `in`, `is`, `or` and `not`. -/
def joinableWords : List (List Char) :=
  [['a', 'n', 'd'], ['e', 'l', 's', 'e'], ['f', 'o', 'r'], ['i', 'f'], ['i', 'n'], ['i', 's'],
   ['o', 'r'], ['n', 'o', 't']]

/-- Whether the character could continue a word. -/
def isWordLike (c : Char) : Bool :=
  c.isAlphanum || c == '_' || 128 ≤ c.toNat

/-- Whether a numeral may end before this text. -/
def mayEnd (cs : List Char) : Bool :=
  joinableWords.any (·.isPrefixOf cs) ||
    match cs with
    | [] => true
    | c :: _ => !isWordLike c

/-- The most decimal digits an integer may have. -/
def maxDecimalDigits : Nat := 4300

/-- An integer with a base other than ten, after its `0x`, `0o` or `0b`. -/
def based (base : Nat) (isDigit : Char → Bool) (cs : List Char) :
    Option (Literal × List Char) := do
  let (ds, rest) ← digitRun₁ isDigit cs
  -- A digit that the base lacks does not end the numeral.
  if rest.head?.any Char.isDigit then none
  if mayEnd rest then some (.int (valueOf base ds), rest) else none

/-- The exponent of a numeral, if one follows.  An `e` without digits is none, and is only
allowed as the beginning of a word that may follow. -/
def exponent (cs : List Char) : Option (Option Int × List Char) :=
  match cs with
  | [] => some (none, [])
  | c :: rest =>
    if c = 'e' ∨ c = 'E' then
      match rest with
      | [] => none
      | s :: rest' =>
        if s = '+' ∨ s = '-' then do
          let (ds, rest) ← digitRun₁ Char.isDigit rest'
          let n : Int := valueOf 10 ds
          some (some (if s = '-' then -n else n), rest)
        else if s.isDigit then do
          let (ds, rest) ← digitRun₁ Char.isDigit rest
          some (some (valueOf 10 ds), rest)
        else if mayEnd cs then some (none, cs)
        else none
    else some (none, cs)

/-- A decimal numeral from its parts: real if it has a point or an exponent, imaginary before a
`j`, otherwise an integer, which does not begin with a superfluous zero. -/
def finish (whole : List Char) (fraction : Option (List Char)) (exp : Option Int)
    (cs : List Char) : Option (Literal × List Char) :=
  let digits := whole ++ fraction.getD []
  let significant := digits.dropWhile (· == '0')
  let scale := exp.getD 0 - ((fraction.getD []).length : Int)
  let real := Binary64.ofDecimal false (valueOf 10 significant) scale significant.length
  let zero := Binary64.ofDecimal false 0 0 0
  match cs with
  | [] => plain real cs
  | c :: rest =>
    if c = 'j' ∨ c = 'J' then
      if mayEnd rest then some (.complex zero real, rest) else none
    else plain real cs
where
  plain (real : Binary64) (cs : List Char) : Option (Literal × List Char) :=
    if !mayEnd cs then none
    else if fraction.isSome || exp.isSome then some (.real real, cs)
    else if whole.head? = some '0' ∧ whole.any (· != '0') then none
    else if maxDecimalDigits < whole.length then none
    else some (.int (valueOf 10 whole), cs)

/-- A decimal numeral whose digits before the point are already read. -/
def afterWhole (whole : List Char) (cs : List Char) : Option (Literal × List Char) := do
  match cs with
  | '.' :: rest =>
    let (fraction, rest) ←
      if rest.head?.any Char.isDigit then digitRun Char.isDigit rest else some ([], rest)
    let (exp, rest) ← exponent rest
    finish whole (some fraction) exp rest
  | _ =>
    let (exp, rest) ← exponent cs
    finish whole none exp rest

/-- The numeral at the head of a text that begins with a digit, or with a point and a digit. -/
def read (cs : List Char) : Option (Literal × List Char) :=
  match cs with
  | '0' :: 'x' :: rest | '0' :: 'X' :: rest => based 16 isHex rest
  | '0' :: 'o' :: rest | '0' :: 'O' :: rest => based 8 isOctal rest
  | '0' :: 'b' :: rest | '0' :: 'B' :: rest => based 2 isBinary rest
  | '.' :: _ => afterWhole [] cs
  | _ => do
    let (whole, rest) ← digitRun₁ Char.isDigit cs
    afterWhole whole rest

end Standin.Source.Numeral
