/-
Tables over code points: sets given by ranges, and search in sorted arrays.

A table is written as text, its numbers in hexadecimal and its entries separated
by blanks and line feeds, so that a property of the character database is one
literal.  A look-up is a binary search.
-/

set_option autoImplicit false

namespace Standin.Text

/-- The value of a hexadecimal digit, either case. -/
def hexDigit? (c : Char) : Option Nat :=
  let n := c.toNat
  if 48 ≤ n ∧ n ≤ 57 then some (n - 48)
  else if 97 ≤ n ∧ n ≤ 102 then some (n - 87)
  else if 65 ≤ n ∧ n ≤ 70 then some (n - 55)
  else none

/-- The number that hexadecimal digits spell; characters that are no digits count as zero. -/
def hexValue (cs : List Char) : Nat :=
  cs.foldl (fun n c => 16 * n + (hexDigit? c).getD 0) 0

/-- The parts of `cs` between the occurrences of `sep`; there is always at least one. -/
def splitChars (sep : Char) (cs : List Char) : List (List Char) :=
  let (part, parts) := cs.foldr
    (fun c (part, parts) => if c = sep then ([], part :: parts) else (c :: part, parts))
    (([], []) : List Char × List (List Char))
  part :: parts

/-- The entries of a table's text. -/
def tableEntries (s : String) : List (List Char) :=
  ((splitChars '\n' s.toList).flatMap (splitChars ' ')).filter (!·.isEmpty)

/-- An entry such as `c0-d6`, or `aa` for a range of one code point. -/
def parseRange (entry : List Char) : Nat × Nat :=
  match splitChars '-' entry with
  | [a, b] => (hexValue a, hexValue b)
  | _ => (hexValue entry, hexValue entry)

section Search

variable {α : Type}

/-- Binary search between positions `lo` and `hi` of a sorted array for the entry that `side`
finds equal; `side` says where the wanted entry lies as seen from the given one. -/
def binarySearch (t : Array α) (side : α → Ordering) (lo hi : Nat) : Nat → Option α
  | 0 => none
  | fuel + 1 =>
    if lo < hi then
      let mid := (lo + hi) / 2
      match t[mid]? with
      | none => none
      | some a =>
        match side a with
        | .lt => binarySearch t side lo mid fuel
        | .gt => binarySearch t side (mid + 1) hi fuel
        | .eq => some a
    else none

/-- Binary search in a whole sorted array. -/
def searchSorted (t : Array α) (side : α → Ordering) : Option α :=
  binarySearch t side 0 t.size (t.size + 1)

end Search

/-- Where `n` lies as seen from a range. -/
def sideOfRange (n : Nat) (r : Nat × Nat) : Ordering :=
  if n < r.1 then .lt else if r.2 < n then .gt else .eq

/-- A set of code points, as ranges in increasing order, ends included. -/
structure CharTable where
  ranges : Array (Nat × Nat)

namespace CharTable

/-- Reads ranges such as `aa c0-d6`. -/
def ofText (s : String) : CharTable :=
  ⟨((tableEntries s).map parseRange).toArray⟩

/-- Whether the code point of `c` is in the set. -/
def contains (t : CharTable) (c : Char) : Bool :=
  (searchSorted t.ranges (sideOfRange c.toNat)).isSome

end CharTable

end Standin.Text
