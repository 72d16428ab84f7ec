/-
Which registries are alive.

A registry lives as long as something refers to it: the program, a space that
holds it, or a living registry that has replaced or saved it.
-/
import Standin.Registry

set_option autoImplicit false

namespace Standin

/-- The registries among objects. -/
def registriesAmong (objects : List Object) : List RegistryId :=
  objects.filterMap fun
    | .registry id => some id
    | _ => none

/-- The objects that a registry has replaced or saved. -/
def Registry.kept (r : Registry) : List Object :=
  r.replaced.map Prod.snd ++ r.saved.flatMap Prod.snd

/-- The objects that a space holds. -/
def Space.held (s : Space) : List Object := (s.cells ++ s.inherited).map Prod.snd

namespace World

/-- The registries that can be reached from some in at most `steps` steps. -/
def reach (w : World) : Nat → List RegistryId → List RegistryId
  | 0, ids => ids
  | steps + 1, ids =>
    w.reach steps (ids ++ ids.flatMap fun id => registriesAmong (w.registry id).kept).eraseDups

/-- The living registries among the first `count`, in the order of their numbers: those that the
program refers to, that one of the spaces holds, or that can be reached from those. -/
def live (w : World) (program : List RegistryId) (spaces : List SpaceId) (count : Nat) :
    List RegistryId :=
  let published := spaces.flatMap fun s => registriesAmong (w.space s).held
  let reached := w.reach count (program ++ published)
  (List.range count).filter reached.contains

end World

end Standin
