/-
Names of modules and of the packages around them.

The parent of a name is what stands before its last dot.  Cutting again and again
at the last dot gives the packages around a module, the nearest first, and ends
because each parent is shorter; a name that begins with a dot ends there too.
-/
import Standin.Text.CharTable

set_option autoImplicit false

namespace Standin.Package

/-- What stands before the last dot, or nothing if there is no dot. -/
def beforeLastDot (cs : List Char) : List Char :=
  ((cs.reverse.dropWhile (· != '.')).drop 1).reverse

/-- What stands after the last dot, or the whole name if there is no dot. -/
def afterLastDot (cs : List Char) : List Char :=
  (cs.reverse.takeWhile (· != '.')).reverse

theorem length_beforeLastDot_lt {cs : List Char} (h : cs ≠ []) :
    (beforeLastDot cs).length < cs.length := by
  have hdrop : ((cs.reverse.dropWhile (· != '.'))).length ≤ cs.length := by
    simpa using (List.dropWhile_sublist (l := cs.reverse) (· != '.')).length_le
  have : 0 < cs.length := List.length_pos_iff.2 h
  simp [beforeLastDot]
  omega

/-- The packages around a name, the nearest first. -/
def ancestorChars (cs : List Char) : List (List Char) :=
  if h : beforeLastDot cs = [] then []
  else
    have : (beforeLastDot cs).length < cs.length :=
      length_beforeLastDot_lt fun he => h (by simp [he, beforeLastDot])
    beforeLastDot cs :: ancestorChars (beforeLastDot cs)
termination_by cs.length

/-- The parent of a name; a name without dots has the empty one. -/
def parent (name : String) : String := String.ofList (beforeLastDot name.toList)

/-- The last part of a name. -/
def lastPart (name : String) : String := String.ofList (afterLastDot name.toList)

/-- The names of the packages around a module, the nearest first. -/
def ancestors (name : String) : List String := (ancestorChars name.toList).map String.ofList

end Standin.Package
