/-
Where the file of a module is found, and which finder takes it.

A module is looked for in each of a list of directories by the last part of its
name: a package, which is a directory with an initial file, comes before a file,
and the first directory that has either wins.  A directory without an initial
file is only a portion of a package that has no file of its own; all portions
count, but any file found anywhere comes before them.
-/
import Standin.Disk
import Standin.Package
import Standin.Hook.Finder
import Standin.Source.Encoding
import Standin.Trigger

set_option autoImplicit false

namespace Standin

/-- Where a module was found. -/
inductive Found where
  /-- Its file, and for a package the directories of its modules. -/
  | file (origin : Path) (search : Option (List Path))
  /-- The directories of the modules of a package that has no file. -/
  | portions (search : List Path)
  deriving DecidableEq, Repr

namespace Found

/-- The endings of the files of modules, those first that come first. -/
def endings : List String :=
  [".cpython-311-x86_64-linux-gnu.so", ".abi3.so", ".so", ".py", ".pyc"]

/-- The name of the initial file of a package, without its ending. -/
def initialName : String := "__init__"

/-- The first file in a directory that has a name with one of the endings. -/
def fileIn (disk : Disk) (directory : Path) (name : String) : Option Path :=
  (endings.map fun ending => directory.join ⟨.here, [name ++ ending]⟩).find? disk.isFile

/-- What one directory has of a module. -/
def inDirectory (disk : Disk) (name : String) (directory : Path) : Option Found :=
  if !disk.isDirectory directory || name.isEmpty then none
  else
    let package := directory.join ⟨.here, [name]⟩
    match fileIn disk package initialName with
    | some origin => some (.file origin (some [package]))
    | none =>
      match fileIn disk directory name with
      | some origin => some (.file origin none)
      | none => if disk.isDirectory package then some (.portions [package]) else none

/-- The directories of the portions among what was found. -/
def portionsOf (found : List Found) : List Path :=
  found.flatMap fun
    | .portions search => search
    | .file .. => []

/-- Where a module is found in a list of directories. -/
def search (disk : Disk) (directories : List Path) (moduleName : String) : Option Found :=
  let found := directories.filterMap (inDirectory disk (Package.lastPart moduleName))
  let isFile : Found → Bool
    | .file .. => true
    | .portions _ => false
  match found.find? isFile with
  | some f => some f
  | none => if found.isEmpty then none else some (.portions (portionsOf found))

end Found

/-- What a finder says of a module that is to be opened: its name, its file, its text, and for a
package the directories of its modules. -/
structure Spec where
  name : String
  origin : Path
  source : String
  search : Option (List Path)
  deriving DecidableEq, Repr

/-- What a finder answers when it is asked for a module. -/
inductive Finding where
  /-- It has nothing to say. -/
  | nothing
  /-- It could not read the file, and has nothing to say. -/
  | unreadable
  | spec (s : Spec)
  deriving DecidableEq, Repr

namespace Finder

/-- The finder for directories and patterns. -/
def new (disk : Disk) (paths : List Path) (exclude : List Value) : Finder :=
  ⟨paths.map disk.resolve, exclude⟩

/-- What the finder says of a module that lies in one of a list of directories: it takes the module
if its file, wherever links lead, is a candidate and its text opts in. -/
def find (f : Finder) (disk : Disk) (directories : List Path) (moduleName : String) :
    Except ListError Finding :=
  match Found.search disk directories moduleName with
  | some (.file origin search) => do
    -- A link is judged by where it leads.
    let file := disk.resolve origin
    if ← f.admits file then
      match (disk.read? file).bind Source.decodeSource with
      | none => return .unreadable
      | some source =>
        if asksToOpen source then return .spec ⟨moduleName, file, source, search⟩
        else return .nothing
    else return .nothing
  | _ => return .nothing

end Finder

end Standin
