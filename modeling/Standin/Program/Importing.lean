/-
Importing names.

How a module is found and loaded is not said here: an import is given an
`Importer` for that, so that what is said of it holds for every way to find
modules.
-/
import Standin.Program.Frame

set_option autoImplicit false

namespace Standin

open Source

/-- The name of a module that is named from a package outwards: one level is the package itself. -/
def relativeName (package : String) (level : Nat) (name : Option String) :
    Except Reason String :=
  if package.isEmpty then .error .noParent
  else
    let base := (List.range (level - 1)).foldl (fun p _ => Package.parent p) package
    if base.isEmpty then .error .beyondTop
    else
      match name with
      | some name => .ok (base ++ "." ++ name)
      | none => .ok base

/-- The name of the module that an import is from. -/
def Frame.importedName (f : Frame) (m : Memory) (level : Nat) (name : Option String) :
    Except Reason String :=
  if level = 0 then .ok (name.getD "")
  else
    relativeName (((m.world.own f.space "__package__").bind Object.text?).getD "") level name

/-- Loads the module of a package that a name may stand for, if the package does not offer the name
itself.  It is no fault if there is no such module. -/
def loadPart (importer : Importer) (s : SpaceId) (name : String) : Run Unit := do
  let m ← get
  if (m.record s).search.isSome ∧ (m.attribute? s name).isNone then
    let part := m.nameOf s ++ "." ++ name
    tryCatch (importer part) fun fault =>
      match fault.reason with
      | .noModule missing => if missing = part then pure () else throw fault
      | _ => throw fault
  else pure ()

/-- The object that a module offers under a name, or the module of that name in it. -/
def offered (m : Memory) (s : SpaceId) (name : String) : Except Reason Object :=
  if name = hintsKey then .error .notSupported
  else
    match m.attribute? s name with
    | some o => .ok o
    | none =>
      match m.world.module? (m.nameOf s ++ "." ++ name) with
      | some part => .ok (.module part)
      | none => .error (.notOffered name (m.nameOf s) (m.record s).file (m.record s).complete)

/-- The object that a library offers under a name. -/
def libraryOffer (library name : String) : Except Reason Object :=
  match Library.offer? library name with
  | some (.constant v) => .ok (.constant none v)
  | some _ => .ok (.offered library (some name))
  | none => .error (.notOffered name library none true)

/-- Binds the names of an import. -/
def bindImports (f : Frame) (line : Nat) (get : String → Memory → Except Reason Object) :
    Locals → List Alias → Run Locals
  | locals, [] => pure locals
  | locals, a :: rest => do
    let o ← Run.lift line (get a.name (← MonadState.get))
    bindImports f line get (← f.store locals (a.asName.getD a.name) o) rest

/-- Imports names from a module. -/
def importFrom (importer : Importer) (f : Frame) (locals : Locals) (line : Nat)
    (name : Option String) (names : List Alias) (level : Nat) : Run Locals := do
  let target ← Run.lift line (f.importedName (← get) level name)
  if (Library.offers? target).isSome then
    bindImports f line (fun n _ => libraryOffer target n) locals names
  else
    importer target
    match (← get).world.module? target with
    | none => Run.fail line (.noModule target)
    | some s =>
      names.forM fun a => loadPart importer s a.name
      bindImports f line (fun n m => offered m s n) locals names

/-- The parts of a name between its dots. -/
def nameParts (name : String) : List String :=
  (Text.splitChars '.' name.toList).map String.ofList

/-- The object that is reached from a module by way of names, each offered by the one before. -/
def descend (m : Memory) : Object → List String → Except Reason Object
  | o, [] => .ok o
  | .module s, part :: rest => do
    let o ← offered m s part
    descend m o rest
  | _, _ :: _ => .error .notSupported

/-- Imports a module.  Without a name of its own the import binds the outermost package, otherwise
what that package offers by way of the parts of the module's name. -/
def importModule (importer : Importer) (f : Frame) (locals : Locals) (line : Nat) (a : Alias) :
    Run Locals := do
  if (Library.offers? a.name).isSome then
    f.store locals (a.asName.getD a.name) (.offered a.name none)
  else
    importer a.name
    let top := (nameParts a.name).headD ""
    importer top
    match (← get).world.module? top with
    | none => Run.fail line (.noModule top)
    | some s =>
      match a.asName with
      | none => f.store locals top (.module s)
      | some asName => do
        let o ← Run.lift line (descend (← get) (.module s) ((nameParts a.name).drop 1))
        f.store locals asName o

/-- Imports modules one after another. -/
def importModules (importer : Importer) (f : Frame) (line : Nat) : Locals → List Alias → Run Locals
  | locals, [] => pure locals
  | locals, a :: rest => do
    importModules importer f line (← importModule importer f locals line a) rest

end Standin
