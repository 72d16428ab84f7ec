/-
The record of a registry.
-/
import Standin.World.Space

set_option autoImplicit false

namespace Standin

/-- How a registry makes a stand-in when it is given none. -/
inductive Factory where
  /-- A new object each time. -/
  | fresh (nature : Nature)
  /-- The same object each time. -/
  | always (object : Object)
  /-- It fails. -/
  | failing
  deriving DecidableEq, Repr, Inhabited

/-- The record of a registry: the names it knows, those of them that may be assigned again, the
space of its module, how it makes stand-ins, the spaces that are kept in step with the module, the
objects it has replaced in the order of replacement, and the saved objects of each name, newest
first. -/
structure Registry where
  bindings : List String
  mutables : List String
  home : SpaceId
  factory : Factory
  aliases : List SpaceId
  replaced : Table Object
  saved : Table (List Object)
  deriving Inhabited

namespace Registry

/-- A new registry: nothing is replaced or saved, and no space is kept in step. -/
def new (bindings mutables : List String) (home : SpaceId) (factory : Factory) : Registry :=
  ⟨bindings, mutables, home, factory, [], [], []⟩

/-- Whether a name is mocked. -/
def isMocked (r : Registry) (name : String) : Bool := r.replaced.has name

/-- The saved objects of a name, newest first. -/
def savedOf (r : Registry) (name : String) : List Object := (r.saved.get? name).getD []

/-- The registry with these saved objects for a name. -/
def putSaved (r : Registry) (name : String) (stack : List Object) : Registry :=
  { r with saved := r.saved.put name stack }

/-- The registry with one more space to keep in step; a space counts once. -/
def addAlias (r : Registry) (s : SpaceId) : Registry :=
  if r.aliases.contains s then r else { r with aliases := r.aliases ++ [s] }

/-- The saved objects of a name after those of one name were changed. -/
theorem savedOf_putSaved (r : Registry) (name : String) (stack : List Object) (other : String) :
    (r.putSaved name stack).savedOf other = if other = name then stack else r.savedOf other := by
  by_cases h : other = name <;> simp [savedOf, putSaved, Table.get?_put, h]

end Registry

end Standin
