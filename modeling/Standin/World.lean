/-
The world that registries work on: spaces, loaded modules, registries.

Spaces change by `assign`, as registries and loaded code write to them, and by
`put` and `drop`, as a module changes its own names; `read` is what is seen of
them.  Every write by a registry and every reset is noted as an event, in order.
-/
import Standin.Registry.Record

set_option autoImplicit false

namespace Standin

/-- Something that happened in a world. -/
inductive Event where
  /-- A registry wrote an object; `own` says whether to the space of its own module. -/
  | write (space : SpaceId) (name : String) (value : Object) (own : Bool)
  /-- An object was asked to reset itself. -/
  | reset (object : Object)
  /-- An object was called. -/
  | call (object : Object)
  deriving DecidableEq, Repr

/-- The world: its spaces, the modules loaded by name (a name may be there without a module), the
registries, the number of the next new object, and what happened so far. -/
structure World where
  space : SpaceId → Space
  loaded : Table (Option SpaceId)
  registry : RegistryId → Registry
  nextObject : Nat
  events : List Event

namespace World

/-- The world in which there is nothing yet. -/
def empty : World := ⟨fun _ => .empty, [], fun _ => default, 0, []⟩

/-- What is read from a space under a name. -/
def read (w : World) (s : SpaceId) (name : String) : Option Sight := (w.space s).get? name

/-- What a space holds itself under a name. -/
def own (w : World) (s : SpaceId) (name : String) : Option Object := (w.space s).cells.get? name

/-- The world with a space changed. -/
def setSpace (w : World) (s : SpaceId) (space : Space) : World :=
  { w with space := fun t => if t = s then space else w.space t }

/-- The world with a registry changed. -/
def setRegistry (w : World) (id : RegistryId) (r : Registry) : World :=
  { w with registry := fun i => if i = id then r else w.registry i }

/-- The world with one more event. -/
def note (w : World) (e : Event) : World := { w with events := w.events ++ [e] }

/-- An object that was not there before. -/
def newObject (w : World) (nature : Nature) : Object × World :=
  (.item w.nextObject nature, { w with nextObject := w.nextObject + 1 })

/-- Code of a module puts an object under a name; no space refuses that. -/
def put (w : World) (s : SpaceId) (name : String) (o : Object) : World :=
  w.setSpace s ((w.space s).put name o)

/-- Code of a module takes a name out of a space. -/
def drop (w : World) (s : SpaceId) (name : String) : World :=
  w.setSpace s ((w.space s).drop name)

/-- A registry writes an object to a space, unless the space refuses. -/
def assign (w : World) (own : Bool) (s : SpaceId) (name : String) (o : Object) :
    Except Refusal World :=
  match (w.space s).refusal with
  | some refusal => .error refusal
  | none => .ok ((w.put s name o).note (.write s name o own))

/-- The module loaded under a name. -/
def module? (w : World) (name : String) : Option SpaceId := (w.loaded.get? name).join

/-- The object that a reader gets. -/
def take (w : World) : Sight → Object × World
  | .held o => (o, w)
  | .made _ => w.newObject .plain

/-- What a space holds itself is what is read from it. -/
theorem read_of_own {w : World} {s : SpaceId} {name : String} {o : Object}
    (h : w.own s name = some o) : w.read s name = some (.held o) := by
  simp [read, Space.get?, own] at h ⊢
  simp [h]

theorem read_put (w : World) (s : SpaceId) (name : String) (o : Object) (t : SpaceId)
    (other : String) :
    (w.put s name o).read t other =
      if t = s ∧ other = name then some (.held o) else w.read t other := by
  by_cases ht : t = s
  · subst ht
    by_cases ho : other = name <;> simp [read, put, setSpace, Space.get?_put, ho]
  · simp [read, put, setSpace, ht]

/-- What is read after a registry wrote. -/
theorem read_assign {w w' : World} {own : Bool} {s : SpaceId} {name : String} {o : Object}
    (h : w.assign own s name o = .ok w') (t : SpaceId) (other : String) :
    w'.read t other = if t = s ∧ other = name then some (.held o) else w.read t other := by
  unfold assign at h
  split at h
  · cases h
  · injection h with h
    subst h
    exact read_put w s name o t other

@[simp] theorem read_setRegistry (w : World) (id : RegistryId) (r : Registry) (s : SpaceId)
    (name : String) : (w.setRegistry id r).read s name = w.read s name := rfl

@[simp] theorem read_note (w : World) (e : Event) (s : SpaceId) (name : String) :
    (w.note e).read s name = w.read s name := rfl

@[simp] theorem registry_setRegistry (w : World) (id other : RegistryId) (r : Registry) :
    (w.setRegistry id r).registry other = if other = id then r else w.registry other := rfl

/-- A registry's record may be put in its place once more. -/
@[simp] theorem setRegistry_registry (w : World) (id : RegistryId) :
    w.setRegistry id (w.registry id) = w := by
  unfold setRegistry
  congr
  funext i
  split
  · rename_i hi
    rw [hi]
  · rfl

end World

end Standin
