/-
Finding, loading and running modules.

The packages around a module are loaded before it, and it is looked for where its
package says.  The finders in the list are asked first: a module that one of them
takes is opened before it is run, and its annotations are not evaluated; any
other module is run as it stands.  A module is there for others from the moment it
begins to run, and no longer if it fails.
-/
import Standin.Program.Execute
import Standin.Program.Placement
import Standin.Hook
import Standin.Hook.Spec

set_option autoImplicit false

namespace Standin

open Source

/-- Where modules are found: the disk, the directory of the modules that are in no package, and the
finders that are asked for them. -/
structure Surroundings where
  disk : Disk
  root : Path
  finders : List Finder

namespace Surroundings

/-- The directories in which a module is looked for. -/
def directories (e : Surroundings) (m : Memory) (name : String) : Except Reason (List Path) :=
  let parent := Package.parent name
  if parent.isEmpty then .ok [e.root]
  else if (Library.offers? parent).isSome then .error (.noPackage name parent)
  else
    match m.world.module? parent with
    | none => .error (.noModule parent)
    | some s =>
      match (m.record s).search with
      | some search => .ok search
      | none => .error (.noPackage name parent)

/-- Asks finders for a module, one after another. -/
def ask (e : Surroundings) (directories : List Path) (name : String) :
    List Finder → Run (Option Spec)
  | [] => pure none
  | f :: rest => do
    match f.find e.disk directories name with
    | .error error => Run.fail 0 (.pattern error)
    | .ok (.spec s) => return some s
    | .ok .nothing => e.ask directories name rest
    | .ok .unreadable => do
      modify fun m => { m with unreadable := m.unreadable + 1 }
      e.ask directories name rest

/-- The text of a module that no finder takes. -/
def plainText (e : Surroundings) (name : String) (origin : Path) : Except Reason String :=
  if origin.ending == Finder.sourceEnding then
    match (e.disk.read? origin).bind decodeSource with
    | some text => .ok text
    | none => .error .undecodable
  else .error (.unloadable name)

/-- The tree of a module that can be run; `lazyHints` says that its annotations are left alone, and
then their texts are kept. -/
def runnable (m : Module) (lazyHints : Bool) : Except Reason (Module × Bool) :=
  if !Placement.isRunnable m lazyHints then .error .misplaced
  else if lazyHints && !(Placement.hintsInAll false m.body).all Placement.Deferred.isWritable then
    .error (.unwritable (.unwritable .tooManyDigits))
  else .ok (m, lazyHints)

/-- The statements of a module that no finder takes, and whether its annotations are left alone. -/
def plainTree (source : String) : Except Reason (Module × Bool) :=
  match readModule source with
  | .error error => .error (.unreadable error)
  | .ok tree => runnable tree (Placement.hasLazyHints tree)

/-- The statements of a module that a finder takes. -/
def openedTree (source : String) : Except Reason (Module × Bool) :=
  match readModule source with
  | .error error => .error (.unreadable error)
  | .ok tree =>
    match openTree tree source with
    | .error error => .error (.unwritable error)
    | .ok outcome => runnable outcome.tree true

end Surroundings

/-- The text that a module begins with, which says what it is about. -/
def introduction? : List Stmt → Option String
  | .expr (.constant (.text s) _ _) _ :: _ => some s
  | _ => none

/-- Runs the statements of a module in its space. -/
def runBody (importer : Importer) (s : SpaceId) (tree : Module) (lazyHints : Bool) : Run Unit := do
  match introduction? tree.body with
  | some text => modify (·.put s "__doc__" (Memory.written s (.text text)))
  | none => pure ()
  discard (executeAll importer ⟨s, lazyHints, .module⟩ [] tree.body)

/-- Begins a module and runs it; a module that fails is forgotten. -/
def runModule (importer : Importer) (name : String) (file : Option Path)
    (search : Option (List Path)) (tree : Except Reason (Module × Bool)) : Run Unit := do
  -- The module is in the table while it runs, for modules that import it in turn.
  let s ← modifyGet (·.beginModule name file search)
  tryCatch
    (do
      let (tree, lazyHints) ← Run.lift 0 tree
      runBody importer s tree lazyHints)
    fun fault => do
      modify (·.forget name)
      throw fault
  modify (·.complete s)

/-- Makes a module an attribute of its package. -/
def attach (name : String) : Run Unit := do
  let m ← get
  match m.world.module? (Package.parent name), m.world.module? name with
  | some parent, some s => modify (·.put parent (Package.lastPart name) (.module s))
  | _, _ => pure ()

namespace Surroundings

/-- Loads a module whose packages are loaded. -/
def loadOne (e : Surroundings) (importer : Importer) (name : String) : Run Unit := do
  match (← get).world.loaded.get? name with
  | some (some _) => pure ()
  | some none => Run.fail 0 (.barred name)
  | none =>
    let directories ← Run.lift 0 (e.directories (← get) name)
    -- The finders in the list come before the plain search of the directories.
    match ← e.ask directories name e.finders with
    | some spec =>
      runModule importer name (some spec.origin) spec.search (openedTree spec.source)
    | none =>
      match Found.search e.disk directories name with
      | none => Run.fail 0 (.noModule name)
      | some (.file origin search) =>
        runModule importer name (some origin) search ((e.plainText name origin).bind plainTree)
      | some (.portions search) => runModule importer name none (some search) (.ok (⟨[]⟩, false))
    attach name

/-- The names that have to be loaded for a module, outermost first: its own and those of the packages
around it, from the first one that is not loaded on. -/
def unloaded (m : Memory) (name : String) : List String :=
  ((name :: Package.ancestors name).takeWhile fun n =>
    !m.world.loaded.has n && (Library.offers? n).isNone).reverse

/-- Loads a module and the packages around it.  `depth` bounds how deep imports may be nested. -/
def load (e : Surroundings) : Nat → Importer
  | 0, _ => Run.fail 0 .tooDeep
  | depth + 1, name => do
    let m ← get
    if m.world.loaded.get? name = some none then Run.fail 0 (.barred name)
    else (unloaded m name).forM (e.loadOne (e.load depth))

end Surroundings

end Standin
