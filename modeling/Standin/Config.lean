/-
Settings, from the project's file and from the command line.

A setting in the file may have any type; what is made of it is decided where it
is used.  The command line can only switch things on, and a list of paths without
a path in it counts as not given.
-/
import Standin.Config.Toml
import Standin.Path
import Standin.Text.Blank
import Standin.Text.Utf8

set_option autoImplicit false

namespace Standin

/-- The settings of a project.  What is not set is nothing. -/
structure Settings where
  enabled : Value
  paths : Value
  exclude : Value
  autoreset : Value
  deriving Inhabited

namespace Settings

/-- The settings of a project that sets nothing. -/
def unset : Settings := ⟨.nothing, .nothing, .nothing, .nothing⟩

end Settings

/-- What the command line says. -/
structure Options where
  enabled : Bool
  paths : Option String
  autoreset : Bool
  deriving DecidableEq, Repr, Inhabited

/-- The items of a list that is written with commas, without the blanks around them and without
blank items. -/
def listItems (s : String) : List String :=
  (((Text.splitChars ',' s.toList).map Text.stripChars).filter (!·.isEmpty)).map String.ofList

/-- The settings with what the command line says. -/
def Settings.merge (file : Settings) (options : Options) : Settings where
  enabled := if options.enabled then .bool true else file.enabled
  paths :=
    match options.paths with
    | some s => if (Text.strip s).isEmpty then file.paths else .list ((listItems s).map .text)
    | none => file.paths
  exclude := file.exclude
  autoreset := if options.autoreset then .bool true else file.autoreset

/-! ## Reading the project's file -/

/-- Why the settings cannot be read: the file is no text, or no document, or something that is no
table stands where one should. -/
inductive SettingsError where
  | notText
  | document (e : Toml.Error)
  | noTable (found : Value)

/-- The table under a name; without an entry it is empty. -/
def subTable (name : String) (entries : Toml.Entries) : Except SettingsError Toml.Entries :=
  match Toml.valueAt name entries with
  | none => .ok []
  | some (.dict inner) => .ok inner
  | some v => .error (.noTable v)

namespace Settings

/-- The settings in a document. -/
def ofEntries (entries : Toml.Entries) : Except SettingsError Settings := do
  let tool ← subTable "tool" entries
  let table ← subTable "pytest-mockingbird" tool
  let get (name : String) : Value := (Toml.valueAt name table).getD .nothing
  return ⟨get "enabled", get "paths", get "exclude", get "autoreset"⟩

/-- The settings in the text of a document. -/
def ofText (s : String) : Except SettingsError Settings :=
  match Toml.read s with
  | .ok entries => ofEntries entries
  | .error e => .error (.document e)

/-- The settings in a file. -/
def ofBytes (bytes : List UInt8) : Except SettingsError Settings :=
  match Text.decodeUtf8 bytes with
  | some cs => ofText (String.ofList cs)
  | none => .error .notText

end Settings

/-! ## Paths -/

/-- Why a setting gives no paths: it has no items, or one of its items is no path. -/
inductive ListError where
  | noItems (found : Value)
  | noPath (found : Value)

/-- What an error says. -/
def ListError.message : ListError → String
  | .noItems v => "'" ++ v.qualifiedTypeName ++ "' object is not iterable"
  | .noPath (.literal (.bytes _)) =>
    "argument should be a str object or an os.PathLike object returning str, not <class 'bytes'>"
  | .noPath v => "expected str, bytes or os.PathLike object, not " ++ v.typeName

/-- The items of a setting; a setting that counts as false has none. -/
def Value.settingItems (v : Value) : Except ListError (List Value) :=
  if v.isTrue then
    match v.items? with
    | some items => .ok items
    | none => .error (.noItems v)
  else .ok []

/-- The path that an item of a setting gives. -/
def Value.path (v : Value) : Except ListError Path :=
  match v with
  | .literal (.text s) => .ok (.ofText s)
  | v => .error (.noPath v)

/-- The directories that a setting gives, as seen from the project's; if it counts as false, the
project's own. -/
def directoriesIn (project : Path) (paths : Value) : Except ListError (List Path) := do
  if paths.isTrue then
    let items ← paths.settingItems
    items.mapM fun v => v.path.map project.join
  else return [project]

end Standin
