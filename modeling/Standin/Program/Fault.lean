/-
Why a program comes to a halt.
-/
import Standin.Opening
import Standin.Config
import Standin.Registry

set_option autoImplicit false

namespace Standin

/-- The reason why a statement, an import or a call fails. -/
inductive Reason where
  /-- A module's text cannot be read. -/
  | unreadable (e : Source.ReadError)
  /-- A module cannot be opened. -/
  | unwritable (e : HintError)
  /-- The bytes of a module's file are no text. -/
  | undecodable
  /-- A statement stands where it may not stand. -/
  | misplaced
  /-- The file of a module is not made of statements. -/
  | unloadable (moduleName : String)
  /-- A name has no meaning. -/
  | undefinedName (name : String)
  /-- A name of a function has no meaning yet. -/
  | unsetLocal (name : String)
  /-- There is no such module. -/
  | noModule (name : String)
  /-- There can be no such module, because `parent` is no package. -/
  | noPackage (name parent : String)
  /-- The module is marked as one that must not be loaded. -/
  | barred (name : String)
  /-- A module does not offer a name; `complete` says whether it has been run to its end. -/
  | notOffered (name moduleName : String) (file : Option Path) (complete : Bool)
  /-- An import begins at a package around the module, and there is none. -/
  | noParent
  /-- An import begins at a package further out than there are packages. -/
  | beyondTop
  /-- A pattern that a finder uses is no text. -/
  | pattern (e : ListError)
  /-- A statement raised an error. -/
  | raised (kind message : String)
  /-- Something of a type that cannot be called. -/
  | notCallable (typeName : String)
  /-- Two types that cannot be added. -/
  | notAddable (left right : String)
  /-- A type that cannot be a key. -/
  | unhashable (typeName : String)
  /-- A module has no such attribute. -/
  | noAttribute (moduleName name : String)
  /-- A module that is not loaded. -/
  | notLoaded (name : String)
  /-- A module that declares no registry. -/
  | noRegistry (moduleName : String)
  /-- A registry's operation failed. -/
  | registry (f : Failure)
  /-- Modules import each other without an end. -/
  | tooDeep
  /-- Something that modules do not do. -/
  | notSupported
  deriving Inhabited

/-- A reason, and the line of the statement that was running. -/
structure Fault where
  reason : Reason
  line : Nat
  deriving Inhabited

namespace Reason

/-- The place of a module's file, as an error names it. -/
def placeText (file : Option Path) : String := (file.map Path.text).getD "unknown location"

/-- What is said of two things that cannot be added. -/
def additionMessage (left right : String) : String :=
  if left == "str" || left == "tuple" then
    "can only concatenate " ++ left ++ " (not \"" ++ right ++ "\") to " ++ left
  else if left == "bytes" then "can't concat " ++ right ++ " to bytes"
  else if left == "list" then "'" ++ right ++ "' object is not iterable"
  else "unsupported operand type(s) for +=: '" ++ left ++ "' and '" ++ right ++ "'"

/-- What a reason says, where it says something of its own. -/
def message : Reason → String
  | .undefinedName name => "name " ++ Text.quoted name ++ " is not defined"
  | .unsetLocal name =>
    "cannot access local variable " ++ Text.quoted name ++
      " where it is not associated with a value"
  | .noModule name => "No module named " ++ Text.quoted name
  | .noPackage name parent =>
    "No module named " ++ Text.quoted name ++ "; " ++ Text.quoted parent ++ " is not a package"
  | .barred name => "import of " ++ name ++ " halted; None in sys.modules"
  | .notOffered name moduleName file true =>
    "cannot import name " ++ Text.quoted name ++ " from " ++ Text.quoted moduleName ++ " (" ++
      placeText file ++ ")"
  | .notOffered name moduleName file false =>
    "cannot import name " ++ Text.quoted name ++ " from partially initialized module " ++
      Text.quoted moduleName ++ " (most likely due to a circular import) (" ++
      placeText file ++ ")"
  | .noParent => "attempted relative import with no known parent package"
  | .beyondTop => "attempted relative import beyond top-level package"
  | .pattern e => e.message
  | .raised _ message => message
  | .notCallable typeName => "'" ++ typeName ++ "' object is not callable"
  | .notAddable left right => additionMessage left right
  | .unhashable typeName => "unhashable type: '" ++ typeName ++ "'"
  | .noAttribute moduleName name =>
    "module " ++ Text.quoted moduleName ++ " has no attribute " ++ Text.quoted name
  | .notLoaded name => Text.quoted name
  | .noRegistry moduleName => Registry.missingMessage moduleName
  | .tooDeep => "maximum recursion depth exceeded"
  | .unloadable moduleName => "cannot load " ++ Text.quoted moduleName
  | .unreadable _ | .unwritable _ | .undecodable | .misplaced | .registry _ | .notSupported => ""

end Reason

end Standin
