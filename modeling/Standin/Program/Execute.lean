/-
Running the statements of a module.

Modules that are opened are run here, and so are those that are not.  What they
do is little: they bind constants, lists and the like to names, define functions
and classes, and import names from each other.
-/
import Standin.Program.Evaluate
import Standin.Program.Importing

set_option autoImplicit false

namespace Standin

open Source

/-! ## Raising errors -/

/-- The text that a raised error shows for its argument. -/
def raisedMessage (kind : String) : Literal → Option String
  | .text s => some (if kind == "KeyError" then Text.quoted s else s)
  | .int n => some (toString n)
  | _ => none

/-- The class of errors that a raised expression names, and the arguments it is given. -/
def raisedParts : Expr → Expr × List Expr
  | .call func args [] _ => (func, args)
  | e => (e, [])

/-- The failure that a raised expression is: a class of errors, with or without an argument. -/
def raise (f : Frame) (locals : Locals) (line : Nat) (e : Expr) : Run Unit := do
  let o ← evaluate f locals (raisedParts e).1
  let given ← evaluateAll f locals (raisedParts e).2
  match o with
  | .offered library (some kind) =>
    if library = Library.everywhere ∧ Library.errorClasses.contains kind then
      match given with
      | [] => Run.fail line (.raised kind "")
      | [arg] =>
        match (← get).contentOf arg with
        | .literal v =>
          match raisedMessage kind v with
          | some message => Run.fail line (.raised kind message)
          | none => Run.fail line .notSupported
        | _ => Run.fail line .notSupported
      | _ => Run.fail line .notSupported
    else Run.fail line .notSupported
  | _ => Run.fail line .notSupported

/-! ## Statements -/

/-- What comes of a statement: the names of the body, and the result if it was a return. -/
abbrev Progress := Locals × Option Object

mutual

/-- Runs a statement. -/
def execute (importer : Importer) (f : Frame) (locals : Locals) : Stmt → Run Progress
  | .pass _ | .global _ _ => pure (locals, none)
  | .expr e _ => do
    discard (evaluate f locals e)
    return (locals, none)
  | .assign targets value span => do
    let o ← evaluate f locals value
    return (← f.storeAll o span.start.line locals targets, none)
  | .annAssign target hint value _ span => do
    let locals ← match value with
      | some e => do
        let o ← evaluate f locals e
        f.storeAll o span.start.line locals [target]
      | none => pure locals
    -- The name has its value before its annotation is looked at.
    if f.evaluatesHints then checkHint f locals hint
    return (locals, none)
  | .augAssign (.name id _ place) .add value span => do
    let old ← f.find locals id place.start.line
    let operand ← evaluate f locals value
    let o ← addTo span.start.line old operand
    return (← f.store locals id o, none)
  | .function false name params body [] returns _ => do
    discard (evaluateAll f locals params.defaults)
    if !f.lazyHints then checkHints f locals (params.hints returns)
    let o ← Run.make .function (.function name f.space params body)
    return (← f.store locals name o, none)
  | .classDef name [] [] body [] _ => do
    discard (executeAll importer { f with kind := .cls } [] body)
    let o ← Run.make .plain (.cls name)
    return (← f.store locals name o, none)
  | .if test body orElse _ => do
    let o ← evaluate f locals test
    if (← get).isTrue o then executeAll importer f locals body
    else executeAll importer f locals orElse
  | .ret value _ => do
    match value with
    | some e => return (locals, some (← evaluate f locals e))
    | none => return (locals, some .nothing)
  | .raise (some e) none span => do
    raise f locals span.start.line e
    return (locals, none)
  | .importFrom name names level span => do
    return (← importFrom importer f locals span.start.line name names level, none)
  | .importModules names span => do
    return (← importModules importer f span.start.line locals names, none)
  | s => Run.fail s.span.start.line .notSupported

/-- Runs statements one after another, until one of them returns. -/
def executeAll (importer : Importer) (f : Frame) (locals : Locals) : List Stmt → Run Progress
  | [] => pure (locals, none)
  | s :: rest => do
    match ← execute importer f locals s with
    | (locals, none) => executeAll importer f locals rest
    | (locals, some o) => return (locals, some o)

end

/-! ## Calls -/

mutual

/-- The names that a statement of a function says to be the module's. -/
def sharedNames : Stmt → List String
  | .global names _ => names
  | .if _ body orElse _ => allSharedNames body ++ allSharedNames orElse
  | _ => []

/-- The names that statements of a function say to be the module's. -/
def allSharedNames : List Stmt → List String
  | [] => []
  | s :: rest => sharedNames s ++ allSharedNames rest

end

/-- The names that belong to a function: those its body binds and does not leave to the module. -/
def ownNames (body : List Stmt) : List String :=
  match scopeOf ⟨body⟩ with
  | .ok scope => scope.names (allSharedNames body)
  | .error _ => []

/-- Whether a function takes nothing. -/
def Source.Parameters.isEmpty (p : Parameters) : Bool :=
  p.positionalOnly.isEmpty && p.positional.isEmpty && p.variadic.isNone &&
    p.keywordOnly.isEmpty && p.keywordVariadic.isNone

/-- Calls an object without arguments. -/
def call (importer : Importer) (o : Object) : Run Object := do
  match (← get).contentOf o with
  | .function _ home params body =>
    if params.isEmpty then
      let (_, result) ← executeAll importer ⟨home, true, .function (ownNames body)⟩ [] body
      return result.getD .nothing
    else Run.fail 0 .notSupported
  | .standIn =>
    modify fun m => { m with world := m.world.note (.call o) }
    Run.make .resettable .standIn
  | .cls _ => Run.make .plain .plain
  | _ => Run.fail 0 (.notCallable ((← get).typeName o))

end Standin
