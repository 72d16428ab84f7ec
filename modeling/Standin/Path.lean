/-
Paths as text: a root and the parts after it.

A path is taken apart at the slashes; empty parts and single dots say nothing and
are left out, so two texts that differ only there are one path.  Two dots stay,
because what they lead to is for the file system to say; `resolve` takes them away
where there are no links.  Two slashes in front, and no more than two, are a root
of their own.
-/
import Standin.Text.CharTable

set_option autoImplicit false

namespace Standin

/-- Where a path begins. -/
inductive Root where
  /-- Wherever one is. -/
  | here
  /-- The one slash. -/
  | slash
  /-- Two slashes, which some systems tell apart from one. -/
  | doubleSlash
  deriving DecidableEq, Repr, Inhabited

/-- A path. -/
structure Path where
  root : Root
  parts : List String
  deriving DecidableEq, Repr, Inhabited

namespace Path

/-- The text of a root. -/
def rootText : Root → String
  | .here => ""
  | .slash => "/"
  | .doubleSlash => "//"

/-- Whether a part says nothing. -/
def isIdle (part : List Char) : Bool := part.isEmpty || part == ['.']

/-- The parts of a text that say something. -/
def partsOf (cs : List Char) : List String :=
  ((Text.splitChars '/' cs).filter (!isIdle ·)).map String.ofList

/-- The root that a number of slashes in front stands for. -/
def rootFor : Nat → Root
  | 0 => .here
  | 2 => .doubleSlash
  | _ => .slash

/-- The path that a text stands for. -/
def ofText (s : String) : Path :=
  let cs := s.toList
  ⟨rootFor (cs.takeWhile (· == '/')).length, partsOf cs⟩

/-- The text of a path; the path that says nothing is a dot. -/
def text (p : Path) : String :=
  match p.root, p.parts with
  | .here, [] => "."
  | root, parts => rootText root ++ "/".intercalate parts

/-- Whether the path begins at a root. -/
def isAbsolute (p : Path) : Bool := p.root != .here

/-- The second path as seen from the first one. -/
def join (p q : Path) : Path :=
  if q.isAbsolute then q else { p with parts := p.parts ++ q.parts }

/-- The last part. -/
def name (p : Path) : String := p.parts.getLast?.getD ""

/-- The ending of a name: what stands from its last dot on, if there is something before and after
that dot. -/
def endingOf (name : String) : String :=
  let cs := name.toList
  let after := (cs.reverse.takeWhile (· != '.')).reverse
  let before := cs.length - after.length
  if 1 < before ∧ after ≠ [] then String.ofList ('.' :: after) else ""

/-- The ending of the last part. -/
def ending (p : Path) : String := endingOf p.name

/-- Whether the path lies in a directory, or is it: its parts begin with all parts of the
directory. -/
def isIn (p dir : Path) : Bool := p.root == dir.root && dir.parts.isPrefixOf p.parts

/-- Goes from one place to the next, `here` being the parts so far, the last one first. -/
def walk (here : List String) (part : String) : List String :=
  if part = ".." then here.drop 1 else part :: here

/-- The parts without any double dots; at the top they lead nowhere. -/
def straighten (parts : List String) : List String := (parts.foldl walk []).reverse

/-- Where a path leads if there are no links on the way.  The root is a single slash then. -/
def resolve (p : Path) : Path := ⟨.slash, straighten p.parts⟩

end Path

end Standin
