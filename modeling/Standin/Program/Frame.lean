/-
Steps of a running program, and the names that statements see.

A step may change the memory and may fail; what it has changed before it fails
stays changed.
-/
import Standin.Program.Memory
import Standin.Program.Fault

set_option autoImplicit false

namespace Standin

open Source

/-- A step of a running program.  A fault leaves the memory as it is at that moment. -/
abbrev Run (α : Type) := ExceptT Fault (StateM Memory) α

/-- Loads the module of a name, and the packages around it, unless they are loaded. -/
abbrev Importer := String → Run Unit

/-- What a running body is. -/
inductive BodyKind where
  | module
  | cls
  /-- A function; `own` are the names that belong to it. -/
  | function (own : List String)
  deriving DecidableEq, Repr

/-- Where statements are run: in the module of a space, and in what kind of body.  `lazyHints` says
that annotations are not evaluated. -/
structure Frame where
  space : SpaceId
  lazyHints : Bool
  kind : BodyKind
  deriving DecidableEq, Repr

/-- The names of a body that is not that of a module. -/
abbrev Locals := Table Object

namespace Run

variable {α : Type}

/-- Fails in a line. -/
def fail (line : Nat) (reason : Reason) : Run α := throw ⟨reason, line⟩

/-- The answer, or the failure in a line. -/
def lift (line : Nat) : Except Reason α → Run α
  | .ok a => pure a
  | .error reason => fail line reason

/-- Makes an object. -/
def make (nature : Nature) (content : Content) : Run Object := modifyGet (·.make nature content)

/-- The object for a value that comes about while the program runs. -/
def computed (v : Literal) : Run Object := modifyGet (·.computed v)

end Run

/-! ## Names -/

/-- The name under which a module, or a class, keeps what its annotations say.  Nothing is kept
there here, so no statement can be run that uses this name. -/
def hintsKey : String := "__annotations__"

namespace Frame

/-- Whether a name belongs to the function that is running. -/
def owns (f : Frame) (name : String) : Bool :=
  match f.kind with
  | .function own => own.contains name
  | _ => false

/-- Whether annotations are evaluated. -/
def evaluatesHints (f : Frame) : Bool :=
  match f.kind with
  | .function _ => false
  | _ => !f.lazyHints

/-- The object under a name: the body's own names come first, then the module's, then those that are
there in every module. -/
def lookup (f : Frame) (locals : Locals) (name : String) (m : Memory) : Except Reason Object :=
  if name = hintsKey then .error .notSupported
  else
    match locals.get? name with
    | some o => .ok o
    | none =>
      if f.owns name then .error (.unsetLocal name)
      else
        match m.world.own f.space name with
        | some o => .ok o
        | none =>
          match Library.offer? Library.everywhere name with
          | some (.constant v) => .ok (.constant none v)
          | some _ => .ok (.offered Library.everywhere (some name))
          | none => .error (.undefinedName name)

/-- The object under a name, as a step. -/
def find (f : Frame) (locals : Locals) (name : String) (line : Nat) : Run Object := do
  Run.lift line (f.lookup locals name (← get))

/-- Puts an object under a name. -/
def store (f : Frame) (locals : Locals) (name : String) (o : Object) : Run Locals :=
  if name = hintsKey then Run.fail 0 .notSupported
  else
    match f.kind with
    | .cls => pure (locals.put name o)
    | .function own =>
      if own.contains name then pure (locals.put name o)
      else do
        modify (·.put f.space name o)
        return locals
    | .module => do
      modify (·.put f.space name o)
      return locals

/-- Puts an object under each of several targets, which have to be names. -/
def storeAll (f : Frame) (o : Object) (line : Nat) : Locals → List Expr → Run Locals
  | locals, [] => pure locals
  | locals, .name id _ _ :: rest => do storeAll f o line (← f.store locals id o) rest
  | _, _ :: _ => Run.fail line .notSupported

end Frame

end Standin
