/-
The operations of registries.

An operation gives the world as it leaves it and then its answer or its failure:
a space may refuse to be written when others have been written already, so a
failure does not mean that nothing happened.

A name of a module is replaced wherever it is seen: in the module's own space, in
each alias, and, if it held no scalar, in each loaded package around the module.
An alias or package is written only while it still holds the very object that the
module held, so a name that was given another meaning there is left alone.

The packages are found by way of the module's own name, which is a text unless
something else was put there.  Then the search for them fails, and it does so when
the module is written already and no alias or package is.
-/
import Standin.World
import Standin.Package
import Standin.Registry.Error
import Standin.Trigger

set_option autoImplicit false

namespace Standin

/-- What keeps a registry from replacing a name everywhere. -/
inductive Obstacle where
  /-- A space refused to be written. -/
  | refused (r : Refusal)
  /-- The packages around the module cannot be looked for, as this object is where its name should
  be.  Most objects cannot be cut at a dot, so that the search fails; that of a stand-in which
  answers whatever it is asked has no end. -/
  | misnamed (o : Object)
  deriving DecidableEq, Repr

/-- Why an operation of a registry failed. -/
inductive Failure where
  /-- The registry's own reasons. -/
  | registry (e : RegistryError)
  /-- A name could not be replaced everywhere. -/
  | blocked (o : Obstacle)
  /-- The factory made no stand-in. -/
  | factory
  /-- The reset of an object failed. -/
  | reset (o : Object)
  deriving DecidableEq, Repr

/-- The world after an operation, with its answer or its failure. -/
abbrev Result (α : Type) := World × Except Failure α

namespace World

/-! ## What a registry sees -/

/-- The name under which a module knows its own name. -/
def nameKey : String := "__name__"

/-- The name of a registry's module, if it has one.  A module keeps a text there. -/
def moduleName (w : World) (r : Registry) : Option String :=
  (w.own r.home nameKey).bind Object.name?

/-- The object that is there in the place of the name of a registry's module and is no name.  What
counts as false is taken for the lack of a name. -/
def misnomer? (w : World) (r : Registry) : Option Object :=
  (w.own r.home nameKey).filter fun o => o.isTrue && o.name?.isNone

/-- The loaded packages around a registry's module, the nearest first. -/
def ancestors (w : World) (r : Registry) : List SpaceId :=
  (Package.ancestors ((w.moduleName r).getD "")).filterMap w.module?

/-- What is read under a name from the first space of a list that has it. -/
def readFirst (w : World) (spaces : List SpaceId) (name : String) : Option Sight :=
  spaces.findSome? fun s => w.read s name

/-- What a registry reads under a name: its module comes first, then the aliases in order. -/
def valueOf (w : World) (r : Registry) (name : String) : Option Sight :=
  match w.own r.home name with
  | some o => some (.held o)
  | none => w.readFirst r.aliases name

/-- That a name is bound nowhere a registry can see. -/
def unbound (w : World) (r : Registry) (name : String) : RegistryError :=
  .unknownBinding name (w.own r.home nameKey)

/-! ## Writing -/

/-- Writes an object to each space of a list that holds the name: if an object is expected there,
only while it is that one.  Ends at the first refusal. -/
def sync (name : String) (value : Object) (expected : Option Object) :
    List SpaceId → World → World × Option Refusal
  | [], w => (w, none)
  | s :: rest, w =>
    match w.read s name with
    | none => sync name value expected rest w
    | some current =>
      if expected.all (current == .held ·) then
        match w.assign false s name value with
        | .error refusal => (w, some refusal)
        | .ok w' => sync name value expected rest w'
      else sync name value expected rest w

/-- The packages that are written when an object of a registry's module is replaced, if they can be
looked for.  Equal scalars are often one object, so that holding the same one in a package means
nothing. -/
def packagesFor (w : World) (r : Registry) (previous : Object) : Except Object (List SpaceId) :=
  if previous.isScalar then .ok []
  else
    match w.misnomer? r with
    | some o => .error o
    | none => .ok (w.ancestors r)

/-- Replaces a name by an object everywhere a registry keeps in step. -/
def install (w : World) (r : Registry) (name : String) (value : Object) :
    World × Option Obstacle :=
  match w.own r.home name with
  -- The module has no object to compare with: every alias that knows the name gets the new one.
  | none => (sync name value none r.aliases w).map id (Option.map .refused)
  | some previous =>
    match w.assign true r.home name value with
    | .error refusal => (w, some (.refused refusal))
    | .ok w' =>
      -- The packages are looked for when the module is written, and before any alias is.
      match w'.packagesFor r previous with
      | .error o => (w', some (.misnamed o))
      | .ok packages =>
        (sync name value (some previous) (r.aliases ++ packages) w').map id (Option.map .refused)

/-- Replaces one name after another.  Ends at the first obstacle. -/
def installAll (r : Registry) : Table Object → World → World × Option Obstacle
  | [], w => (w, none)
  | (name, value) :: rest, w =>
    match w.install r name value with
    | (w', none) => installAll r rest w'
    | (w', some obstacle) => (w', some obstacle)

/-! ## Mocking -/

/-- The stand-in that a factory makes. -/
def make (w : World) : Factory → Result Object
  | .fresh nature => let (o, w') := w.newObject nature; (w', .ok o)
  | .always o => (w, .ok o)
  | .failing => (w, .error .factory)

/-- The stand-in for a name: the given one, or else one from the factory. -/
def standInFor (w : World) (factory : Factory) : Option Object → Result Object
  | some o => (w, .ok o)
  | none => w.make factory

/-- Replaces a name by a stand-in: a given one, or one from the factory. -/
def mock (w : World) (id : RegistryId) (name : String) (standIn : Option Object) :
    Result Object :=
  let r := w.registry id
  if r.isMocked name then (w, .error (.registry (.alreadyMocked name)))
  else
    match w.valueOf r name with
    | none => (w, .error (.registry (w.unbound r name)))
    | some sight =>
      let (previous, w) := w.take sight
      match w.standInFor r.factory standIn with
      | (w, .error e) => (w, .error e)
      | (w, .ok o) =>
        -- Recorded before anything is written, so that a refused write can still be undone.
        let r := { r with replaced := r.replaced.put name previous }
        match (w.setRegistry id r).install r name o with
        | (w, some obstacle) => (w, .error (.blocked obstacle))
        | (w, none) => (w, .ok o)

/-- Puts the object back that a mocked name had. -/
def unmock (w : World) (id : RegistryId) (name : String) : Result Object :=
  let r := w.registry id
  match r.replaced.get? name with
  | none => (w, .error (.registry (.notMocked name "unmocked")))
  | some previous =>
    match w.install r name previous with
    | (w, some obstacle) => (w, .error (.blocked obstacle))
    | (w, none) =>
      (w.setRegistry id { r with replaced := r.replaced.drop name }, .ok previous)

/-- Puts all objects back, in the order in which they were replaced. -/
def unmockAll (w : World) (id : RegistryId) : Result Unit :=
  let r := w.registry id
  match installAll r r.replaced w with
  | (w, some obstacle) => (w, .error (.blocked obstacle))
  | (w, none) => (w.setRegistry id { r with replaced := [] }, .ok ())

/-! ## Resetting -/

/-- Resets an object if it can be asked to. -/
def resetObject (w : World) (o : Object) : Result Unit :=
  if o.isResettable then
    (w.note (.reset o), if o.failsToReset then .error (.reset o) else .ok ())
  else (w, .ok ())

/-- Resets what a registry reads under a name, if it is bound. -/
def resetValue (w : World) (r : Registry) (name : String) : Result Unit :=
  match w.valueOf r name with
  | none => (w, .ok ())
  | some (.made _) => (w, .ok ())
  | some (.held o) => w.resetObject o

/-- Resets one name after another.  Ends at the first failure. -/
def resetEach (r : Registry) : List String → World → Result Unit
  | [], w => (w, .ok ())
  | name :: rest, w =>
    match w.resetValue r name with
    | (w', .ok ()) => resetEach r rest w'
    | (w', .error e) => (w', .error e)

/-- Resets the stand-in of a mocked name. -/
def reset (w : World) (id : RegistryId) (name : String) : Result Unit :=
  let r := w.registry id
  if r.isMocked name then w.resetValue r name
  else (w, .error (.registry (.notMocked name "reset")))

/-- Resets the stand-ins of all mocked names, in the order in which they were mocked. -/
def resetAll (w : World) (id : RegistryId) : Result Unit :=
  let r := w.registry id
  resetEach r r.replaced.names w

/-! ## Saving and restoring -/

/-- Saves what a registry reads under a name. -/
def save (w : World) (id : RegistryId) (name : String) : Result Object :=
  let r := w.registry id
  match w.valueOf r name with
  | none => (w, .error (.registry (w.unbound r name)))
  | some sight =>
    let (o, w) := w.take sight
    (w.setRegistry id (r.putSaved name (o :: r.savedOf name)), .ok o)

/-- Puts the newest saved object of a name back.  It is no longer saved then, even when it does not
get everywhere. -/
def restore (w : World) (id : RegistryId) (name : String) : Result Object :=
  let r := w.registry id
  match r.savedOf name with
  | [] => (w, .error (.registry (.noRestorationPoint name)))
  | o :: rest =>
    -- Taken off before anything is written.
    let r := r.putSaved name rest
    match (w.setRegistry id r).install r name o with
    | (w, some obstacle) => (w, .error (.blocked obstacle))
    | (w, none) => (w, .ok o)

/-- Saves each name of a list that is bound. -/
def saveEach (id : RegistryId) : List String → World → World
  | [], w => w
  | name :: rest, w => saveEach id rest (w.save id name).1

/-- Saves all names that may be assigned again. -/
def saveAll (w : World) (id : RegistryId) : Result Unit :=
  (saveEach id (w.registry id).mutables w, .ok ())

/-- Puts the oldest saved object of each name of a list back and forgets what was saved for it.
Ends at the first obstacle. -/
def restoreEach (id : RegistryId) : List String → World → Result Unit
  | [], w => (w, .ok ())
  | name :: rest, w =>
    let r := w.registry id
    match (r.savedOf name).getLast? with
    | none => restoreEach id rest w
    | some oldest =>
      match w.install r name oldest with
      | (w', some obstacle) => (w', .error (.blocked obstacle))
      | (w', none) => restoreEach id rest (w'.setRegistry id (r.putSaved name []))

/-- Puts the oldest saved object of each name back that may be assigned again. -/
def restoreAll (w : World) (id : RegistryId) : Result Unit :=
  restoreEach id (w.registry id).mutables w

/-! ## Aliases -/

/-- Keeps one more space in step with a registry's module. -/
def addAlias (w : World) (id : RegistryId) (s : SpaceId) : World :=
  w.setRegistry id ((w.registry id).addAlias s)

/-! ## All registries -/

/-- Puts everything back that a registry has replaced or saved. -/
def undo (w : World) (id : RegistryId) : Result Unit :=
  match w.unmockAll id with
  | (w, .error e) => (w, .error e)
  | (w, .ok ()) => w.restoreAll id

/-- Puts everything back that the registries of a list have replaced or saved.  Ends at the first
failure. -/
def undoAll : List RegistryId → World → Result Unit
  | [], w => (w, .ok ())
  | id :: rest, w =>
    match w.undo id with
    | (w', .ok ()) => undoAll rest w'
    | (w', .error e) => (w', .error e)

/-- The registry that a space declares. -/
def registryIn? (w : World) (s : SpaceId) : Option RegistryId :=
  match w.read s markerName with
  | some (.held (.registry id)) => some id
  | _ => none

/-! ## What a registry says of itself -/

/-- A registry in words; `shown` says how objects are shown that are no texts. -/
def describe (shown : Object → String) (w : World) (r : Registry) : String :=
  "<Mockingbird for " ++ ((w.own r.home nameKey).map (·.quoted shown)).getD "None" ++ ": " ++
    toString r.bindings.length ++ " bindings, " ++ toString r.replaced.length ++ " mocked>"

/-! ## What the events say -/

/-- How often an object was asked to reset itself. -/
def resetCount (w : World) (o : Object) : Nat := w.events.count (.reset o)

/-- How often an object was called since it was last reset. -/
def callCount (w : World) (o : Object) : Nat :=
  (w.events.reverse.takeWhile (· != .reset o)).count (.call o)

end World

/-- What is said of a module that declares no registry. -/
def Registry.missingMessage (moduleName : String) : String :=
  "Module " ++ Text.quoted moduleName ++ " has no mockingbird registry; declare a top-level \"" ++
    markerName ++ "\" and import it with the mockingbird import hook enabled"

end Standin
