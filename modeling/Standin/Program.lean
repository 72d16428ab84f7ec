/-
A running program: its files, the session and the finders, and its memory.

An operation gives the program as it leaves it and then its answer or the reason
why it failed.
-/
import Standin.Program.Importer
import Standin.Program.Shown
import Standin.Session

set_option autoImplicit false

namespace Standin

/-- A running program.  `root` is the directory of the project, in which the modules are found that
are in no package. -/
structure Program where
  disk : Disk
  root : Path
  installation : Installation
  memory : Memory

namespace Program

variable {α : Type}

/-- A program that has not done anything yet. -/
def begin (disk : Disk) (root : Path) : Program := ⟨disk, root, ⟨none, .ofForeign []⟩, .empty⟩

/-- How deep imports may be nested. -/
def importDepth : Nat := 100

/-- Where the program's modules are found. -/
def surroundings (p : Program) : Surroundings :=
  ⟨p.disk, p.root, p.installation.hooks.finders.filterMap ListedFinder.own?⟩

/-- Loads modules for the program. -/
def importer (p : Program) : Importer := p.surroundings.load importDepth

/-- Takes a step. -/
def run (p : Program) (step : Run α) : Program × Except Fault α :=
  let (answer, memory) := step.run.run p.memory
  ({ p with memory := memory }, answer)

/-- The finder for directories, as seen from the project's, and patterns. -/
def finder (p : Program) (paths : List Path) (exclude : List Value) : Finder :=
  .new p.disk (paths.map p.root.join) exclude

/-! ## Finders and sessions -/

/-- Registers a finder. -/
def register (p : Program) (f : Finder) : Program :=
  { p with installation := { p.installation with hooks := p.installation.hooks.register f } }

/-- Takes the registered finder out. -/
def unregister (p : Program) : Program :=
  { p with installation := { p.installation with hooks := p.installation.hooks.unregister } }

/-- Begins a session with the project's settings and those of a command line. -/
def configure (p : Program) (options : Options) : Except SessionError Program :=
  match Session.read p.disk p.root options with
  | .error e => .error e
  | .ok session => .ok { p with installation := p.installation.start p.disk session }

/-- Ends the session. -/
def unconfigure (p : Program) : Program := { p with installation := p.installation.stop }

/-! ## Modules -/

/-- Imports a module. -/
def importModule (p : Program) (name : String) : Program × Except Fault Unit :=
  p.run (p.importer name)

/-- The space of a loaded module. -/
def spaceOf (p : Program) (name : String) : Except Reason SpaceId :=
  match p.memory.world.module? name with
  | some s => .ok s
  | none => .error (.notLoaded name)

/-- The object under a name of a module. -/
def valueOf (p : Program) (moduleName name : String) : Except Reason Object := do
  let s ← p.spaceOf moduleName
  match p.memory.attribute? s name with
  | some o => return o
  | none => throw (.noAttribute (p.memory.nameOf s) name)

/-- Puts a value under a name of a module. -/
def assign (p : Program) (moduleName name : String) (v : Value) : Except Reason Program := do
  let s ← p.spaceOf moduleName
  let (o, memory) := p.memory.ofValue v
  return { p with memory := memory.put s name o }

/-- The file of the module that a function is from. -/
def fileOf (p : Program) (o : Object) : Option Path :=
  match p.memory.contentOf o with
  | .function _ home _ _ => (p.memory.record home).file
  | _ => none

/-! ## Registries -/

/-- The registry that a module declares. -/
def registryOf (p : Program) (moduleName : String) : Except Reason RegistryId := do
  let s ← p.spaceOf moduleName
  match p.memory.world.registryIn? s with
  | some id => return id
  | none => throw (.noRegistry (p.memory.nameOf s))

/-- The program with its world as a registry's operation leaves it, and the answer. -/
def settle (p : Program) (result : Result α) : Program × Except Reason α :=
  let p := { p with memory := { p.memory with world := result.1 } }
  match result.2 with
  | .ok a => (p, .ok a)
  | .error f => (p, .error (.registry f))

/-- An operation of the registry that a module declares. -/
def withRegistry (p : Program) (moduleName : String) (operation : World → RegistryId → Result α) :
    Program × Except Reason α :=
  match p.registryOf moduleName with
  | .error reason => (p, .error reason)
  | .ok id => p.settle (operation p.memory.world id)

/-- Mocks a name of a module, with a value or with a new stand-in. -/
def mock (p : Program) (moduleName name : String) (value : Option Value) :
    Program × Except Reason Object :=
  match value with
  | none => p.withRegistry moduleName (·.mock · name none)
  | some v =>
    let (o, memory) := p.memory.ofValue v
    { p with memory := memory }.withRegistry moduleName (·.mock · name (some o))

/-- Keeps a module in step with the registry of another one. -/
def addAlias (p : Program) (moduleName target : String) : Program × Except Reason Object :=
  match p.registryOf moduleName, p.spaceOf target with
  | .error reason, _ | _, .error reason => (p, .error reason)
  | .ok id, .ok s => p.settle (p.memory.world.addAlias id s, .ok (.module s))

/-- Puts everything back that any living registry has replaced or saved. -/
def undoAll (p : Program) : Program × Except Reason Unit :=
  p.settle (World.undoAll p.memory.liveRegistries p.memory.world)

/-- What happens after each test. -/
def teardown (p : Program) : Program × Except Reason Unit :=
  if p.installation.undoes then p.undoAll else (p, .ok ())

end Program

end Standin
