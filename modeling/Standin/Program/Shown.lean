/-
What can be seen of the objects of a program, and objects made from values.
-/
import Standin.Program.Memory

set_option autoImplicit false

namespace Standin

/-- What is seen of an object. -/
inductive Shown where
  | literal (value : Source.Literal)
  | list (items : List Shown)
  | tuple (items : List Shown)
  | dict (entries : List (Shown × Shown))
  /-- A registry, with the name of its module. -/
  | registry (moduleName : Option String)
  /-- A stand-in, with the number of calls since it was last reset. -/
  | standIn (calls : Nat)
  | module (name : String)
  | cls (name : String)
  | function (name : String)
  /-- Anything else. -/
  | other
  deriving Inhabited

namespace Memory

/-- What is seen of something that a library offers. -/
def showOffer (library name : String) : Shown :=
  match Library.offer? library name with
  | some .cls => .cls name
  | some .function => .function name
  | some (.constant v) => .literal v
  | some .other | none => .other

/-- What is seen of an object.  Objects consist of older ones, so `depth`, the number of objects that
have been made, is enough. -/
def showTo (m : Memory) : Nat → Object → Shown
  | 0, _ => .other
  | depth + 1, o =>
    match o with
    | .registry id => .registry (m.world.moduleName (m.world.registry id))
    | .module s => .module (m.nameOf s)
    | .offered library none => .module library
    | .offered library (some name) => showOffer library name
    | o =>
      match m.contentOf o with
      | .literal v => .literal v
      | .list items => .list (items.map (m.showTo depth))
      | .tuple items => .tuple (items.map (m.showTo depth))
      | .dict entries =>
        .dict (entries.map fun (k, v) => (m.showTo depth k, m.showTo depth v))
      | .function name _ _ _ => .function name
      | .cls name => .cls name
      | .standIn => .standIn (m.world.callCount o)
      | .plain => .other

/-- What is seen of an object. -/
def view (m : Memory) (o : Object) : Shown := m.showTo (m.world.nextObject + 1) o

/-- Whether a name of a module is hidden. -/
def isHidden (name : String) : Bool := name.startsWith "__"

/-- What is seen of a module under the names that are not hidden. -/
def attributes (m : Memory) (s : SpaceId) : List (String × Shown) :=
  ((m.world.space s).cells.filter (!isHidden ·.1)).map fun (name, o) => (name, m.view o)

mutual

/-- Makes the object of a value. -/
def ofValue (m : Memory) : Value → Object × Memory
  | .literal v => m.computed v
  | .list items =>
    let (items, m) := ofValues m items
    m.make (.ofItems items) (.list items)
  | .tuple items =>
    let (items, m) := ofValues m items
    m.make (.ofItems items) (.tuple items)
  | .dict entries =>
    let (entries, m) := ofEntries m entries
    m.make (.ofItems entries) (.dict entries)
  | .dateTime .. | .date _ | .time _ => m.make .plain .plain

/-- Makes the objects of values. -/
def ofValues (m : Memory) : List Value → List Object × Memory
  | [] => ([], m)
  | v :: rest =>
    let (o, m) := ofValue m v
    let (os, m) := ofValues m rest
    (o :: os, m)

/-- Makes the objects of the entries of a dictionary. -/
def ofEntries (m : Memory) : List (Value × Value) → List (Object × Object) × Memory
  | [] => ([], m)
  | (k, v) :: rest =>
    let (k, m) := ofValue m k
    let (v, m) := ofValue m v
    let (es, m) := ofEntries m rest
    ((k, v) :: es, m)

end

end Memory

end Standin
