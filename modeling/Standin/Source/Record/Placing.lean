/-
Giving places to the nodes of a tree.

A tree that has just been made may have nodes without a place, which a record can have.  Places are
given in three ways: a node is moved to a place, a node is moved with everything in it, or the nodes
without a place get that of the node they are a part of.  The last two go through the whole record
and differ only in the place that a node gets, so they are one walk (`giveAll`).
-/
import Standin.Source.Record

set_option autoImplicit false

namespace Standin.Source.Record

/-- The classes of what only groups others and has no place of its own. -/
def unplacedClasses : List String :=
  ["Module", "arguments", "comprehension", "match_case", "withitem"]

/-- The record, as a node at a place, with its parts where they are. -/
def moveTo (place : Span) : Record → Record
  | .node cls span fields =>
    .node cls (if cls ∈ unplacedClasses then span else some place) fields
  | r => r

section Walk

variable (give : Span → Option Span → Span)

mutual

/-- The record with a new place for each node that can have one: what `give` makes of the place of
the node around it, which is `outer` at first, and of its own. -/
def giveAll (outer : Span) : Record → Record
  | .list items => .list (giveItems outer items)
  | .node cls span fields =>
    if cls ∈ unplacedClasses then .node cls span (giveFields outer fields)
    else
      let place := give outer span
      .node cls (some place) (giveFields place fields)
  | r => r

def giveItems (outer : Span) : List Record → List Record
  | [] => []
  | r :: rest => giveAll outer r :: giveItems outer rest

def giveFields (outer : Span) : List (String × Record) → List (String × Record)
  | [] => []
  | (key, r) :: rest => (key, giveAll outer r) :: giveFields outer rest

end

end Walk

/-- The record with all its nodes moved to one place. -/
def moveAll (place : Span) (r : Record) : Record := r.giveAll (fun _ _ => place) place

/-- The record with a place for each node that has none: that of the node it is a part of, or
`outer` if there is no such node. -/
def fillPlaces (outer : Span) (r : Record) : Record :=
  r.giveAll (fun outer own => own.getD outer) outer

end Standin.Source.Record
