/-
What a running program has made: objects, modules and their namespaces.

The world says which object stands under which name; the memory says besides what
the objects consist of, so that they can be shown, called and added to.
-/
import Standin.Registry.Live
import Standin.Path
import Standin.Value
import Standin.Program.Library

set_option autoImplicit false

namespace Standin

open Source

/-- What an object made while the program runs consists of. -/
inductive Content where
  | literal (value : Literal)
  | list (items : List Object)
  | tuple (items : List Object)
  | dict (entries : List (Object × Object))
  /-- A function of the module in a space. -/
  | function (name : String) (home : SpaceId) (params : Parameters) (body : List Stmt)
  | cls (name : String)
  /-- A stand-in made by a registry, or what a stand-in gives when it is called. -/
  | standIn
  /-- Anything else. -/
  | plain
  deriving Inhabited

/-- What is known of a module besides its namespace: its file, for a package the directories of its
modules, and whether it has been run to its end. -/
structure ModuleRecord where
  file : Option Path
  search : Option (List Path)
  complete : Bool
  deriving Inhabited

/-- The memory of a running program.  `unreadable` counts the files that a finder could not read. -/
structure Memory where
  world : World
  content : Nat → Content
  record : SpaceId → ModuleRecord
  spaces : Nat
  registries : Nat
  unreadable : Nat

namespace Memory

/-- The memory of a program in which nothing has been made. -/
def empty : Memory := ⟨.empty, fun _ => .plain, fun _ => default, 0, 0, 0⟩

/-- What an object consists of. -/
def contentOf (m : Memory) : Object → Content
  | .item id .resettable => match m.content id with
    | .plain => .standIn
    | c => c
  | .item id _ => m.content id
  | .constant _ v => .literal v
  | _ => .plain

/-- Makes an object. -/
def make (m : Memory) (nature : Nature) (content : Content) : Object × Memory :=
  let id := m.world.nextObject
  let (o, world) := m.world.newObject nature
  (o, { m with world := world, content := fun i => if i = id then content else m.content i })

/-- Begins a module: its space holds its name, the name of its package and its file. -/
def beginModule (m : Memory) (name : String) (file : Option Path) (search : Option (List Path)) :
    SpaceId × Memory :=
  let s := m.spaces
  let text (s : String) : Object := .constant none (.text s)
  let package := if search.isSome then name else Package.parent name
  let cells : Table Object :=
    [(World.nameKey, text name), ("__doc__", .nothing), ("__package__", text package)] ++
      (file.map fun p => ("__file__", text p.text)).toList
  let world := m.world.setSpace s ⟨cells, [], none⟩
  (s, { m with
    world := { world with loaded := world.loaded.put name (some s) },
    record := fun t => if t = s then ⟨file, search, false⟩ else m.record t,
    spaces := s + 1 })

/-- Notes that a module has been run to its end. -/
def complete (m : Memory) (s : SpaceId) : Memory :=
  { m with record := fun t => if t = s then { m.record s with complete := true } else m.record t }

/-- Forgets that a module is loaded. -/
def forget (m : Memory) (name : String) : Memory :=
  { m with world := { m.world with loaded := m.world.loaded.drop name } }

/-- Puts an object under a name of a module. -/
def put (m : Memory) (s : SpaceId) (name : String) (o : Object) : Memory :=
  { m with world := m.world.put s name o }

/-- Makes a registry for a module. -/
def makeRegistry (m : Memory) (bindings mutables : List String) (home : SpaceId) :
    Object × Memory :=
  let id := m.registries
  let r := Registry.new bindings mutables home (.fresh .resettable)
  (.registry id, { m with world := m.world.setRegistry id r, registries := id + 1 })

/-- The name of the module in a space. -/
def nameOf (m : Memory) (s : SpaceId) : String :=
  (((m.world.own s World.nameKey).bind Object.text?)).getD ""

/-- The attribute of a module. -/
def attribute? (m : Memory) (s : SpaceId) (name : String) : Option Object := m.world.own s name

/-- The living registries. -/
def liveRegistries (m : Memory) : List RegistryId :=
  m.world.live [] (List.range m.spaces) m.registries

/-! ## Constants -/

/-- Whether a text is made of letters, digits and underscores, so that it might be a name. -/
def isNameLike (s : String) : Bool := s.toList.all fun c => c.isAlphanum || c == '_'

/-- Whether all modules share one object for a value: what there are few of is made only once.  A
text that might be a name is shared only where it is written in a module. -/
def isShared (written : Bool) : Literal → Bool
  | .none | .bool _ | .ellipsis => true
  | .int n => -5 ≤ n && n ≤ 256
  | .text s => s.isEmpty || (s.length == 1 && s.toList.all (·.toNat < 256)) ||
      (written && isNameLike s)
  | .bytes bs => bs.length ≤ 1
  | _ => false

/-- The object for a constant that is written in a module. -/
def written (home : SpaceId) (v : Literal) : Object :=
  .constant (if isShared true v then none else some home) v

/-- The nature of an object that is a literal value. -/
def natureOf : Literal → Nature
  | .text s => .text s
  | .surrogates codes => .text (beforeSurrogate codes)
  | .ellipsis => .plain
  | v => if (Value.literal v).isTrue then .scalar else .zero

/-- The object for a value that comes about while the program runs. -/
def computed (m : Memory) (v : Literal) : Object × Memory :=
  if isShared false v then (.constant none v, m) else m.make (natureOf v) (.literal v)

/-! ## What objects look like -/

/-- The name of an object's type. -/
def typeName (m : Memory) (o : Object) : String :=
  match o with
  | .registry _ => "Mockingbird"
  | .module _ => "module"
  | .offered _ none => "module"
  | .offered library (some name) =>
    match Library.offer? library name with
    | some .cls => "type"
    | some .function => "function"
    | some (.constant v) => (Value.literal v).typeName
    | _ => "object"
  | o =>
    match m.contentOf o with
    | .literal v => (Value.literal v).typeName
    | .list _ => "list"
    | .tuple _ => "tuple"
    | .dict _ => "dict"
    | .function .. => "function"
    | .cls _ => "type"
    | .standIn => "MagicMock"
    | .plain => "object"

/-- Whether an object counts as true. -/
def isTrue (m : Memory) (o : Object) : Bool :=
  match m.contentOf o with
  | .literal v => (Value.literal v).isTrue
  | .list items | .tuple items => !items.isEmpty
  | .dict entries => !entries.isEmpty
  | _ => true

end Memory

end Standin
