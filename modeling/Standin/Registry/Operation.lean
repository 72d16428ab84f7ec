/-
The operations of registries as values, and runs of them.

What is done to a world is a list of actions: a registry performs an operation, or
code that knows nothing of registries changes a space or the table of loaded
modules.  A run goes on after a failure, from the world as the failure left it, so
what is kept by every action is kept by every run.
-/
import Standin.Registry

set_option autoImplicit false

namespace Standin

/-- An operation of a registry. -/
inductive Operation where
  /-- Replaces a name, by a given stand-in or by one from the factory. -/
  | mock (name : String) (standIn : Option Object)
  | unmock (name : String)
  | unmockAll
  | reset (name : String)
  | resetAll
  | save (name : String)
  | restore (name : String)
  | saveAll
  | restoreAll
  /-- Keeps one more space in step. -/
  | addAlias (space : SpaceId)
  deriving DecidableEq, Repr

namespace Operation

/-- The name that an operation is about; those on all names have none. -/
def name? : Operation → Option String
  | .mock name _ | .unmock name | .reset name | .save name | .restore name => some name
  | .unmockAll | .resetAll | .saveAll | .restoreAll | .addAlias _ => none

end Operation

/-- Something that is done to a world. -/
inductive Action where
  /-- A registry performs an operation. -/
  | operate (id : RegistryId) (op : Operation)
  /-- Code of a module puts an object under a name. -/
  | put (space : SpaceId) (name : String) (object : Object)
  /-- Code of a module takes a name away. -/
  | drop (space : SpaceId) (name : String)
  /-- A module is loaded under a name, or the name is barred. -/
  | load (moduleName : String) (space : Option SpaceId)
  /-- A module is no longer loaded. -/
  | unload (moduleName : String)
  deriving DecidableEq, Repr

namespace World

/-- An operation's result, with its answer as an object that may be missing. -/
def answering (r : Result Object) : Result (Option Object) := (r.1, r.2.map some)

/-- The result of an operation that has no answer. -/
def silent (r : Result Unit) : Result (Option Object) := (r.1, r.2.map fun _ => none)

/-- A registry performs an operation.  The answer is the object that was put in place, taken away
or saved; the operations on all names and the resets have none. -/
def perform (w : World) (id : RegistryId) : Operation → Result (Option Object)
  | .mock name standIn => answering (w.mock id name standIn)
  | .unmock name => answering (w.unmock id name)
  | .unmockAll => silent (w.unmockAll id)
  | .reset name => silent (w.reset id name)
  | .resetAll => silent (w.resetAll id)
  | .save name => answering (w.save id name)
  | .restore name => answering (w.restore id name)
  | .saveAll => silent (w.saveAll id)
  | .restoreAll => silent (w.restoreAll id)
  | .addAlias s => (w.addAlias id s, .ok none)

/-- The world after operations of one registry. -/
def performAll (id : RegistryId) (ops : List Operation) (w : World) : World :=
  ops.foldl (fun w op => (w.perform id op).1) w

/-- The world after an action. -/
def act (w : World) : Action → World
  | .operate id op => (w.perform id op).1
  | .put s name o => w.put s name o
  | .drop s name => w.drop s name
  | .load moduleName s => { w with loaded := w.loaded.put moduleName s }
  | .unload moduleName => { w with loaded := w.loaded.drop moduleName }

/-- The world after a run of actions. -/
def actAll (actions : List Action) (w : World) : World := actions.foldl act w

@[simp] theorem performAll_nil (id : RegistryId) (w : World) : performAll id [] w = w := rfl

@[simp] theorem performAll_cons (id : RegistryId) (op : Operation) (ops : List Operation)
    (w : World) : performAll id (op :: ops) w = performAll id ops (w.perform id op).1 := rfl

@[simp] theorem actAll_nil (w : World) : actAll [] w = w := rfl

@[simp] theorem actAll_cons (a : Action) (actions : List Action) (w : World) :
    actAll (a :: actions) w = actAll actions (w.act a) := rfl

/-- What every action keeps, every run keeps. -/
theorem actAll_preserves {P : World → Prop} (h : ∀ w a, P w → P (w.act a)) (actions : List Action)
    {w : World} (hw : P w) : P (actAll actions w) := by
  induction actions generalizing w with
  | nil => exact hw
  | cons a actions ih => exact ih (h w a hw)

end World

end Standin
