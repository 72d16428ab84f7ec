/-
The list of finders that are asked for modules, and the finder registered in it.

Registering a finder takes all finders of this kind out of the list first and
puts the new one in front, so the list never holds two; finders of other kinds
keep their places.
-/
import Standin.Hook.Finder

set_option autoImplicit false

namespace Standin

/-- A finder in the list. -/
inductive ListedFinder where
  /-- A finder of another kind, told apart by a number. -/
  | foreign (id : Nat)
  /-- One of this kind.  Two of them with the same directories and patterns are told apart by their
  numbers. -/
  | own (id : Nat) (finder : Finder)
  deriving Inhabited

namespace ListedFinder

/-- Whether the finder is of this kind. -/
def isOwn : ListedFinder → Bool
  | .own .. => true
  | .foreign _ => false

/-- The finder, if it is of this kind. -/
def own? : ListedFinder → Option Finder
  | .own _ f => some f
  | .foreign _ => none

/-- The number of a finder of this kind. -/
def ownId? : ListedFinder → Option Nat
  | .own id _ => some id
  | .foreign _ => none

end ListedFinder

/-- The list of finders in the order in which they are asked, which of them is registered, and the
number of the next new one. -/
structure Hooks where
  finders : List ListedFinder
  registered : Option Nat
  next : Nat
  deriving Inhabited

namespace Hooks

/-- Nothing but finders of other kinds. -/
def ofForeign (ids : List Nat) : Hooks := ⟨ids.map .foreign, none, 0⟩

/-- The list without the registered finder, if that is still in it. -/
def withoutRegistered (h : Hooks) : List ListedFinder :=
  match h.registered with
  | some id => h.finders.eraseP (·.ownId? == some id)
  | none => h.finders

/-- Takes the registered finder out of the list, and then any others of this kind: other code may
have put some there. -/
def unregister (h : Hooks) : Hooks :=
  { h with finders := h.withoutRegistered.filter (!·.isOwn), registered := none }

/-- Registers a finder in place of any that was registered before. -/
def register (h : Hooks) (f : Finder) : Hooks :=
  -- All of this kind go first, so that there is only ever one.
  let h := h.unregister
  { finders := .own h.next f :: h.finders, registered := some h.next, next := h.next + 1 }

/-- The finders of this kind with their places in the list. -/
def ownFinders (h : Hooks) : List (Nat × Finder) :=
  h.finders.zipIdx.filterMap fun (f, i) => f.own?.map fun f => (i, f)

end Hooks

end Standin
