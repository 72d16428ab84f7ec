/-
The failures of registries.
-/
import Standin.Text.Quoted
import Standin.World.Space

set_option autoImplicit false

namespace Standin

/-- An object as a message shows it: texts are quoted, and `shown` says how all others are shown. -/
def Object.quoted (shown : Object → String) (o : Object) : String :=
  match o.text? with
  | some s => Text.quoted s
  | none => shown o

/-- Why a registry refuses an operation on a name. -/
inductive RegistryError where
  /-- The name is mocked already. -/
  | alreadyMocked (name : String)
  /-- The name is not mocked, so that it cannot be unmocked or reset, as `action` says. -/
  | notMocked (name action : String)
  /-- Nothing is saved for the name. -/
  | noRestorationPoint (name : String)
  /-- The name has a value neither in the module nor in an alias; `moduleName` is what the module
  has for a name of its own. -/
  | unknownBinding (name : String) (moduleName : Option Object)
  /-- Any other failure, with its own message. -/
  | other (name message : String)
  deriving DecidableEq, Repr

namespace RegistryError

/-- The name that the refused operation was about. -/
def name : RegistryError → String
  | .alreadyMocked n | .notMocked n _ | .noRestorationPoint n | .unknownBinding n _
  | .other n _ => n

/-- What the failure says.  A module without a name is not mentioned.  `shown` says how objects are
shown that are no texts. -/
def message (shown : Object → String) : RegistryError → String
  | .alreadyMocked n => "The reference \"" ++ n ++ "\" has already been mocked"
  | .notMocked n action =>
    "The reference \"" ++ n ++ "\" has NOT been mocked so cannot be " ++ action
  | .noRestorationPoint n =>
    "The reference \"" ++ n ++ "\" has no restoration points - you must save one first"
  | .unknownBinding n moduleName =>
    let place := match moduleName.filter Object.isTrue with
      | none => ""
      | some o => " in module " ++ o.quoted shown
    "The reference \"" ++ n ++ "\" is not bound" ++ place
  | .other _ message => message

end RegistryError

end Standin
