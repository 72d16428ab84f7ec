/-
Opening a module step by step.

The statement that creates a registry is the same in every module but for the two lists of names it
is given and the place where it stands.  So it can be written down once as a text, in which a name
with a spelling of its own, a placeholder, stands for each list; the statement for a module is that
text with the placeholders replaced and everything moved to the place of the marker.

What is made has no place at first: the lists, a final declaration in its new form, and a text that
is written anew for its type.  Here the module is a record, in which such places are missing until
they are given: to a statement that of the one it replaces, to all of the registry's statement that
of the marker, and in the end to every node that still has none that of the node around it.
-/
import Standin.Opening
import Standin.Source.Record.Placing
import Standin.Table

set_option autoImplicit false

namespace Standin

open Source

/-! ## The template -/

/-- The statement that creates a registry, with placeholders for the lists of names. -/
def registryText : String :=
  "mockingbird = __import__('pytest_mockingbird.registry', fromlist=['Mockingbird']).Mockingbird(\n" ++
  "    __BINDINGS__,\n" ++
  "    __MUTABLES__,\n" ++
  "    globals(),\n" ++
  ")\n"

/-- A character of a placeholder's name. -/
def isPlaceholderChar (c : Char) : Bool := c == '_' || c.isUpper || c.isDigit

/-- A name in capitals, with two low lines on either side. -/
def placeholderPattern : Text.Pattern :=
  .all [.text "__".toList, .one isPlaceholderChar, .run isPlaceholderChar, .text "__".toList,
    .lineEnd]

/-- Whether a name is spelled like a placeholder. -/
def isPlaceholder (id : String) : Bool :=
  placeholderPattern.matchThen (fun _ => true) ⟨none, id.toList⟩

section Fill

variable (fillers : Table Record)

/-- What is put in the place of a name: its filler, if it is a placeholder that has one. -/
def filler? (id : String) : Option Record :=
  if isPlaceholder id then fillers.get? id else none

/-- What is put in the place of a node: for a name that has a filler, this one. -/
def nodeFiller? (cls : String) : List (String × Record) → Option Record
  | (_, .text id) :: _ => if cls = "Name" then filler? fillers id else none
  | _ => none

mutual

/-- The record with its placeholders filled.  Fillers are not looked into. -/
def Source.Record.fillNames : Record → Record
  | .list items => .list (fillItems items)
  | .node cls span fields =>
    match nodeFiller? fillers cls fields with
    | some filler => filler
    | none => .node cls span (fillFields fields)
  | r => r

def fillItems : List Record → List Record
  | [] => []
  | r :: rest => r.fillNames :: fillItems rest

def fillFields : List (String × Record) → List (String × Record)
  | [] => []
  | (key, r) :: rest => (key, r.fillNames) :: fillFields rest

end

end Fill

/-- A text that has just been made and stands nowhere yet. -/
def newText (s : String) : Record :=
  .node "Constant" none [("value", .literal (.text s)), ("kind", .absent)]

/-- A list of texts that has just been made. -/
def newTextList (names : List String) : Record :=
  .node "List" none [("elts", .list (names.map newText)), ("ctx", .ofUsage .load)]

/-- The first statement of a module, which has to be an assignment. -/
def firstAssignment : Except ReadError Module → Record
  | .ok ⟨.assign targets value span :: _⟩ => (Stmt.assign targets value span).record
  | _ => .absent

/-- The template of the registry's statement. -/
def registryTemplate : Record := firstAssignment (readModule registryText)

/-- What a registry is given, by the placeholders that stand for it. -/
def registryFillers (bindings mutables : List String) : Table Record :=
  [("__BINDINGS__", newTextList bindings), ("__MUTABLES__", newTextList mutables)]

/-- The statement that creates a registry, in the place of the marker. -/
def registryRecord (bindings mutables : List String) (marker : Span) : Record :=
  (registryTemplate.fillNames (registryFillers bindings mutables)).moveAll marker

/-! ## The steps -/

/-- The type that a final annotation gives, with no place yet if it is a new text. -/
def GivenType.record : GivenType → Record
  | .part e => e.record
  | .text s => newText s

/-- A final declaration as one that may be assigned again, in the place of the declaration. -/
def reassignableRecord (target hint value : Expr) (simple : Bool) (span : Span) :
    Except HintError Record :=
  match typeInFinal hint with
  | .error e => .error e
  | .ok none =>
    let made := Record.node "Assign" none
      [("targets", .list [target.record]), ("value", value.record)]
    .ok (made.moveTo span)
  | .ok (some type) =>
    let made := Record.node "AnnAssign" none
      [("target", target.record), ("annotation", type.record), ("value", value.record),
       ("simple", .ofBit simple)]
    .ok (made.moveTo span)

/-- A statement that is not the marker to be replaced, before the last places are given. -/
def declarationRecord (s : Stmt) : Except HintError Record :=
  match s with
  | .annAssign target hint (some value) simple span =>
    match isFinalHint hint with
    | .error e => .error (.unreadable e)
    | .ok true => reassignableRecord target hint value simple span
    | .ok false => .ok s.record
  | _ => .ok s.record

/-- The statements of the opened module before the last places are given. -/
def bodyRecords (bindings mutables : List String) (injected : Bool) :
    List Stmt → Except HintError (List Record)
  | [] => .ok []
  | s :: rest =>
    if declaresMarker s then
      let r := if injected then s.record else registryRecord bindings mutables s.span
      match bodyRecords bindings mutables true rest with
      | .error e => .error e
      | .ok rs => .ok (r :: rs)
    else
      match declarationRecord s with
      | .error e => .error e
      | .ok r =>
        match bodyRecords bindings mutables injected rest with
        | .error e => .error e
        | .ok rs => .ok (r :: rs)

/-- Where a node stands that has no place and is a part of no node that has one. -/
def topPlace : Span := ⟨⟨1, 0⟩, ⟨1, 0⟩⟩

/-- Opens a module step by step if its text asks for it. -/
def openRecord (tree : Module) (source : String) : Except HintError Record :=
  if asksToOpen source then
    match scopeOf tree with
    | .error e => .error (.unreadable e)
    | .ok scope =>
      let bindings := scope.names [markerName]
      let mutables := scope.mutables [markerName]
      match bodyRecords bindings mutables false tree.body with
      | .error e => .error e
      | .ok body => .ok ((Record.node "Module" none [("body", .list body)]).fillPlaces topPlace)
  else .ok tree.record

end Standin
