/-
Sessions: the settings in force, and the finder that goes with them.

A session begins with the settings of the project and of the command line; if it
is enabled, a finder for its directories is registered.  When it ends, the finder
goes if the session was enabled.
-/
import Standin.Hook
import Standin.Hook.Spec

set_option autoImplicit false

namespace Standin

/-- The settings in force: whether modules are opened, in which directories, which patterns of
paths are left alone, and whether everything is undone after each test. -/
structure Session where
  enabled : Bool
  paths : List Path
  exclude : List Value
  autoreset : Bool
  deriving Inhabited

/-- Why no session begins: the settings cannot be read, or one of them is no list. -/
inductive SessionError where
  | settings (e : SettingsError)
  | list (e : ListError)

namespace Session

/-- The session that settings give for the project in a directory. -/
def ofSettings (project : Path) (s : Settings) : Except ListError Session := do
  let paths ← directoriesIn project s.paths
  let exclude ← s.exclude.settingItems
  return ⟨s.enabled.isTrue, paths, exclude, s.autoreset.isTrue⟩

/-- The name of the project's file. -/
def fileName : String := "pyproject.toml"

/-- The settings in the project's file; without a file nothing is set. -/
def fileSettings (disk : Disk) (project : Path) : Except SettingsError Settings :=
  match disk.read? (project.join ⟨.here, [fileName]⟩) with
  | some bytes => Settings.ofBytes bytes
  | none => .ok .unset

/-- The session for a project and a command line. -/
def read (disk : Disk) (project : Path) (options : Options) : Except SessionError Session :=
  match fileSettings disk project with
  | .error e => .error (.settings e)
  | .ok file =>
    match ofSettings project (file.merge options) with
    | .error e => .error (.list e)
    | .ok session => .ok session

end Session

/-- The current session, if there is one, and the list of finders. -/
structure Installation where
  session : Option Session
  hooks : Hooks
  deriving Inhabited

namespace Installation

/-- Begins a session. -/
def start (i : Installation) (disk : Disk) (s : Session) : Installation where
  session := some s
  hooks := if s.enabled then i.hooks.register (.new disk s.paths s.exclude) else i.hooks

/-- Ends the session. -/
def stop (i : Installation) : Installation where
  session := none
  hooks := if i.session.any (·.enabled) then i.hooks.unregister else i.hooks

/-- Whether everything is undone after a test. -/
def undoes (i : Installation) : Bool := i.session.any (·.autoreset)

end Installation

end Standin
