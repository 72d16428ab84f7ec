/-
Objects and the spaces that hold them.

A space holds objects under names: the namespace of a module, a mapping, any
object with attributes.  What is read from a space under a name is all that a
registry knows of it, and a space may refuse to be written.
-/
import Standin.Interface
import Standin.Table
import Standin.Value

set_option autoImplicit false

namespace Standin

/-- The number of a space. -/
abbrev SpaceId := Nat

/-- The number of a registry. -/
abbrev RegistryId := Nat

/-- What an object is, as far as a registry can tell. -/
inductive Nature where
  /-- A text, which may be the name of a module. -/
  | text (s : String)
  /-- Nothing, a truth value, a number or bytes. -/
  | scalar
  /-- A scalar that counts as false: a number that is zero, or no bytes. -/
  | zero
  /-- A function: what is inherited from a class is then not the function itself. -/
  | function
  /-- Anything else that cannot be reset. -/
  | plain
  /-- A collection of nothing: such a one counts as false. -/
  | hollow
  /-- A stand-in that can be reset. -/
  | resettable
  /-- A stand-in that fails when it is reset. -/
  | fragile
  deriving DecidableEq, Repr, Inhabited

/-- The nature of a collection of these things. -/
def Nature.ofItems {α : Type} : List α → Nature
  | [] => .hollow
  | _ :: _ => .plain

/-- Only how many there are matters. -/
@[simp] theorem Nature.ofItems_map {α β : Type} (f : α → β) (l : List α) :
    ofItems (l.map f) = ofItems l := by
  cases l <;> rfl

/-- An object. -/
inductive Object where
  /-- An object made while the program runs.  Such objects are told apart by their numbers alone: two
  texts that read the same are two objects. -/
  | item (id : Nat) (nature : Nature)
  | registry (id : RegistryId)
  /-- A constant that is written in a module, or one that all modules share.  Constants that belong
  to the same module and read the same are one object. -/
  | constant (home : Option SpaceId) (value : Source.Literal)
  /-- A loaded module. -/
  | module (space : SpaceId)
  /-- What a library offers under a name, or the library itself. -/
  | offered (library : String) (name : Option String)
  deriving DecidableEq, Repr

instance : Inhabited Object := ⟨.constant none .none⟩

namespace Object

/-- The object that is nothing. -/
def nothing : Object := .constant none .none

/-- One of the two truth values. -/
def truth (b : Bool) : Object := .constant none (.bool b)

/-- Whether the object is a scalar: nothing, a truth value, a number, a text or bytes. -/
def isScalar : Object → Bool
  | .item _ (.text _) | .item _ .scalar | .item _ .zero => true
  | .constant _ v => v != .ellipsis
  | _ => false

/-- Whether the object is a function. -/
def isFunction : Object → Bool
  | .item _ .function => true
  | _ => false

/-- Whether the object can be asked to reset itself.  So can a registry, and a class whose objects can
be reset. -/
def isResettable : Object → Bool
  | .item _ .resettable | .item _ .fragile | .registry _ => true
  | .offered library (some name) =>
    library == Interface.packageName && Interface.resettableClasses.contains name
  | _ => false

/-- Whether the object, when it is asked to reset itself, fails.  A registry does, because it is not
told which name to reset, and a class, because it is not told which object. -/
def failsToReset : Object → Bool
  | .item _ .resettable => false
  | o => o.isResettable

/-- Whether the object counts as true. -/
def isTrue : Object → Bool
  | .item _ (.text s) => !s.isEmpty
  | .item _ .zero | .item _ .hollow => false
  | .constant _ v => (Value.literal v).isTrue
  | _ => true

/-- The text that the object is, if it is one. -/
def text? : Object → Option String
  | .item _ (.text s) | .constant _ (.text s) => some s
  | _ => none

/-- The text by which the object names a module, if it is a text.  No module that can be loaded has
a surrogate in its name, so of a text with surrogates what comes before the first is all that leads
to one. -/
def name? : Object → Option String
  | .constant _ (.surrogates codes) => some (Source.beforeSurrogate codes)
  | o => o.text?

end Object

/-- What is seen in a space under a name. -/
inductive Sight where
  /-- An object that is there. -/
  | held (o : Object)
  /-- An object made at the moment of reading from a function, so that it is no other object and
  the next reader gets another one. -/
  | made (function : Object)
  deriving DecidableEq, Repr

/-- Why a space refuses to be written. -/
inductive Refusal where
  /-- The attributes of the space are fixed. -/
  | frozen
  /-- The space is a view that can only be read. -/
  | readOnly
  deriving DecidableEq, Repr

/-- A space: what it holds itself, what can be read from it besides, and whether it refuses to be
written. -/
structure Space where
  cells : Table Object
  inherited : Table Object
  refusal : Option Refusal
  deriving Inhabited

namespace Space

/-- The space that holds nothing. -/
def empty : Space := ⟨[], [], none⟩

/-- What is read from the space under a name: what it holds itself comes first.  A function that
is inherited is not read itself; the reader gets an object made from it. -/
def get? (s : Space) (name : String) : Option Sight :=
  match s.cells.get? name with
  | some o => some (.held o)
  | none => (s.inherited.get? name).map fun o => if o.isFunction then .made o else .held o

/-- The space with an object under a name. -/
def put (s : Space) (name : String) (o : Object) : Space :=
  { s with cells := s.cells.put name o }

/-- The space without what it holds itself under a name. -/
def drop (s : Space) (name : String) : Space :=
  { s with cells := s.cells.drop name }

/-- A look-up after an object was put under a name. -/
theorem get?_put (s : Space) (name : String) (o : Object) (other : String) :
    (s.put name o).get? other = if other = name then some (.held o) else s.get? other := by
  by_cases h : other = name <;> simp [get?, put, Table.get?_put, h]

@[simp] theorem refusal_put (s : Space) (name : String) (o : Object) :
    (s.put name o).refusal = s.refusal := rfl

end Space

end Standin
