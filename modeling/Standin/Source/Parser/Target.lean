/-
Expressions in the place of a target.

What stands left of `=`, after `for` or after `del` is read as an expression;
these functions say whether it may be a target and mark what it does to its
names.
-/
import Standin.Source.Tree

set_option autoImplicit false

namespace Standin.Source

mutual

/-- The expression as a target that is stored to: a name, attribute or subscript, or a sequence
of targets, of which some may be starred. -/
def Expr.asStored? : Expr → Option Expr
  | .name id _ s => some (.name id .store s)
  | .attribute v a _ s => some (.attribute v a .store s)
  | .subscript v i _ s => some (.subscript v i .store s)
  | .starred e _ s =>
    match e with
    | .starred _ _ _ => none
    | _ => e.asStored?.map (.starred · .store s)
  | .list es _ s => (asAllStored? es).map (.list · .store s)
  | .tuple es _ s => (asAllStored? es).map (.tuple · .store s)
  | _ => none

def asAllStored? : List Expr → Option (List Expr)
  | [] => some []
  | e :: es =>
    match e.asStored?, asAllStored? es with
    | some e, some es => some (e :: es)
    | _, _ => none

end

mutual

/-- The expression as a target that is deleted: as for storing, but nothing may be starred. -/
def Expr.asDeleted? : Expr → Option Expr
  | .name id _ s => some (.name id .delete s)
  | .attribute v a _ s => some (.attribute v a .delete s)
  | .subscript v i _ s => some (.subscript v i .delete s)
  | .list es _ s => (asAllDeleted? es).map (.list · .delete s)
  | .tuple es _ s => (asAllDeleted? es).map (.tuple · .delete s)
  | _ => none

def asAllDeleted? : List Expr → Option (List Expr)
  | [] => some []
  | e :: es =>
    match e.asDeleted?, asAllDeleted? es with
    | some e, some es => some (e :: es)
    | _, _ => none

end

/-- The expression as the only target of an annotated or augmented assignment: a name, attribute
or subscript. -/
def Expr.asSingle? : Expr → Option Expr
  | .name id _ s => some (.name id .store s)
  | .attribute v a _ s => some (.attribute v a .store s)
  | .subscript v i _ s => some (.subscript v i .store s)
  | _ => none

end Standin.Source
