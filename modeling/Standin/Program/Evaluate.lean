/-
Evaluating expressions.

Expressions are constants, names, displays of lists and the like, and the
expression that creates a registry.  Annotations are evaluated too, but nothing is
kept of them, so evaluating one can only fail or change nothing.  What a module keeps
of its annotations cannot be asked for (`hintsKey`).
-/
import Standin.Program.Frame
import Standin.Program.Arithmetic

set_option autoImplicit false

namespace Standin

open Source

namespace Memory

/-- Whether two objects count as one key. -/
def isSameKey (m : Memory) (a b : Object) : Bool :=
  a == b ||
    match m.contentOf a, m.contentOf b with
    | .literal x, .literal y => x == y
    | _, _ => false

/-- The entries of a dictionary with one more: a key that is there already gets the new value. -/
def putEntry (m : Memory) (key value : Object) : List (Object × Object) → List (Object × Object)
  | [] => [(key, value)]
  | (k, v) :: rest =>
    if m.isSameKey k key then (k, value) :: rest else (k, v) :: m.putEntry key value rest

/-- Whether an object can be a key. -/
def isHashable (m : Memory) (o : Object) : Bool :=
  match m.contentOf o with
  | .list _ | .dict _ => false
  | _ => true

/-- Whether an object can be called. -/
def isCallable (m : Memory) (o : Object) : Bool :=
  match o, m.contentOf o with
  | .offered _ (some _), _ => true
  | _, .function .. | _, .cls _ | _, .standIn => true
  | _, _ => false

end Memory

/-- Fails unless a name still stands for the function that is there in every module. -/
def Frame.expectGiven (f : Frame) (locals : Locals) (name : String) (line : Nat) : Run Unit := do
  let o ← f.find locals name line
  if o = .offered Library.everywhere (some name) then pure ()
  else
    let m ← get
    if m.isCallable o then Run.fail line .notSupported
    else Run.fail line (.notCallable (m.typeName o))

mutual

/-- The object that an expression gives. -/
def evaluate (f : Frame) (locals : Locals) : Expr → Run Object
  | .constant v _ _ => pure (Memory.written f.space v)
  | .name id _ span => f.find locals id span.start.line
  | .list elements _ _ => do
    let items ← evaluateAll f locals elements
    Run.make (.ofItems items) (.list items)
  | .tuple elements _ _ => do
    let items ← evaluateAll f locals elements
    Run.make (.ofItems items) (.tuple items)
  | .dict items span => do
    let entries ← evaluateItems f locals span.start.line [] items
    Run.make (.ofItems entries) (.dict entries)
  | .unary .minus operand span => do
    match (← get).contentOf (← evaluate f locals operand) with
    | .literal v =>
      match v.negated with
      | some v => pure (Memory.written f.space v)
      | none => Run.fail span.start.line .notSupported
    | _ => Run.fail span.start.line .notSupported
  | .attribute value attr _ span => do
    match ← evaluate f locals value with
    | .module s =>
      if attr = hintsKey then Run.fail span.start.line .notSupported
      else
        let m ← get
        match m.attribute? s attr with
        | some o => pure o
        | none => Run.fail span.start.line (.noAttribute (m.nameOf s) attr)
    | _ => Run.fail span.start.line .notSupported
  | .call func args keywords span =>
    match creationLists? (.call func args keywords span) with
    | some (bindings, mutables) => do
      -- A module may have bound the names of the functions that the expression calls.
      f.expectGiven locals "__import__" span.start.line
      f.expectGiven locals "globals" span.start.line
      modifyGet (·.makeRegistry bindings mutables f.space)
    | none => Run.fail span.start.line .notSupported
  | e => Run.fail e.span.start.line .notSupported

/-- The objects that expressions give, one after another. -/
def evaluateAll (f : Frame) (locals : Locals) : List Expr → Run (List Object)
  | [] => pure []
  | e :: rest => do
    let o ← evaluate f locals e
    return o :: (← evaluateAll f locals rest)

/-- The entries of a dictionary, added to those there are. -/
def evaluateItems (f : Frame) (locals : Locals) (line : Nat) (entries : List (Object × Object)) :
    List DictItem → Run (List (Object × Object))
  | [] => pure entries
  | ⟨some key, value⟩ :: rest => do
    let k ← evaluate f locals key
    let v ← evaluate f locals value
    let m ← get
    if m.isHashable k then evaluateItems f locals line (m.putEntry k v entries) rest
    else Run.fail line (.unhashable (m.typeName k))
  | ⟨none, _⟩ :: _ => Run.fail line .notSupported

end

mutual

/-- Evaluates an annotation, of which nothing is kept. -/
def checkHint (f : Frame) (locals : Locals) : Expr → Run Unit
  | .constant _ _ _ => pure ()
  | .name id _ span => discard (f.find locals id span.start.line)
  | .attribute value _ _ _ => checkHint f locals value
  | .subscript value slice _ _ => do
    checkHint f locals value
    checkHint f locals slice
  | .tuple elements _ _ | .list elements _ _ => checkHints f locals elements
  | .binary left .bitOr right _ => do
    checkHint f locals left
    checkHint f locals right
  | e => Run.fail e.span.start.line .notSupported

/-- Evaluates annotations one after another. -/
def checkHints (f : Frame) (locals : Locals) : List Expr → Run Unit
  | [] => pure ()
  | e :: rest => do
    checkHint f locals e
    checkHints f locals rest

end

/-! ## Addition -/

/-- The object that comes from adding to another.  A stand-in takes anything and gives a new
stand-in. -/
def addTo (line : Nat) (left right : Object) : Run Object := do
  let m ← get
  let fault : Reason := .notAddable (m.typeName left) (m.typeName right)
  match m.contentOf left, m.contentOf right with
  | .literal a, .literal b =>
    match a.sum? b with
    | some v => Run.computed v
    | none => Run.fail line fault
  | .standIn, _ => Run.make .resettable .standIn
  | .tuple a, .tuple b => Run.make (.ofItems (a ++ b)) (.tuple (a ++ b))
  | _, _ => Run.fail line fault

end Standin
