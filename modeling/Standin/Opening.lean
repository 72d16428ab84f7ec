/-
Opening a module, so that its bindings can be replaced while it runs.

The first declaration of the marker at the top level becomes an assignment that
creates a registry of the module's bindings, and every final declaration at the
top level becomes one that may be assigned again.  Nothing else changes, and
everything new stands where the statement stood that it replaces.
-/
import Standin.Scope
import Standin.Trigger

set_option autoImplicit false

namespace Standin

open Source

/-- A list of texts, as an expression. -/
def textList (names : List String) (span : Span) : Expr :=
  .list (names.map fun name => .constant (.text name) false span) .load span

/-- The expression for the class of registries, which needs no import of the module's own. -/
def registryClass (span : Span) : Expr :=
  .attribute
    (.call (.name "__import__" .load span)
      [.constant (.text "pytest_mockingbird.registry") false span]
      [⟨some "fromlist", textList ["Mockingbird"] span, span⟩] span)
    "Mockingbird" .load span

/-- The statement that creates the registry: it is given the names of the module's bindings, those
of them that may be assigned again, and the module's namespace. -/
def registryStatement (bindings mutables : List String) (span : Span) : Stmt :=
  .assign [.name markerName .store span]
    (.call (registryClass span)
      [textList bindings span, textList mutables span,
        .call (.name "globals" .load span) [] [] span]
      [] span)
    span

/-- The names in a list of texts. -/
def textsOf? : List Expr → Option (List String)
  | [] => some []
  | .constant (.text name) _ _ :: rest => (textsOf? rest).map (name :: ·)
  | _ => none

/-- The names that an expression gives to the registry it creates, if it creates one. -/
def creationLists? : Expr → Option (List String × List String)
  | .call (.attribute (.call (.name importName _ _) _ _ _) className _ _)
      [.list bindings _ _, .list mutables _ _, .call (.name namespaceName _ _) [] [] _] [] _ =>
    if importName = "__import__" ∧ className = "Mockingbird" ∧ namespaceName = "globals" then do
      return (← textsOf? bindings, ← textsOf? mutables)
    else none
  | _ => none

/-- The names in a list of texts are those it was made from. -/
theorem textsOf?_map (names : List String) (span : Span) :
    textsOf? (names.map fun name => .constant (.text name) false span) = some names := by
  induction names with
  | nil => rfl
  | cons name rest ih => simp [textsOf?, ih]

/-- The registry's statement is given the names it was made for. -/
theorem creationLists?_registry (bindings mutables : List String) (span : Span) :
    creationLists? (.call (registryClass span) [textList bindings span, textList mutables span,
      .call (.name "globals" .load span) [] [] span] [] span) = some (bindings, mutables) := by
  simp [creationLists?, registryClass, textList, textsOf?_map]

/-- Whether the expression is the marker's name. -/
def isMarkerName : Expr → Bool
  | .name id _ _ => id == markerName
  | _ => false

/-- Whether a statement declares the marker: it assigns to it alone, or annotates it. -/
def declaresMarker : Stmt → Bool
  | .assign [target] _ _ => isMarkerName target
  | .annAssign target _ _ _ _ => isMarkerName target
  | _ => false

/-- A final declaration as one that may be assigned again: the type it gives stays, and with the
bare qualifier the annotation goes. -/
def reassignable (target hint value : Expr) (simple : Bool) (span : Span) :
    Except HintError Stmt :=
  match typeInFinal hint with
  | .error e => .error e
  | .ok none => .ok (.assign [target] value span)
  | .ok (some type) => .ok (.annAssign target (type.expr span) (some value) simple span)

/-- A statement that is not the marker to be replaced, as it stands in the opened module. -/
def openDeclaration (s : Stmt) : Except HintError Stmt :=
  match s with
  | .annAssign target hint (some value) simple span =>
    match isFinalHint hint with
    | .error e => .error (.unreadable e)
    | .ok true => reassignable target hint value simple span
    | .ok false => .ok s
  | _ => .ok s

/-- The statements of the opened module; `injected` says whether the marker has been replaced.
Later markers stay as they are. -/
def openBody (bindings mutables : List String) (injected : Bool) :
    List Stmt → Except HintError (List Stmt × Bool)
  | [] => .ok ([], injected)
  | s :: rest =>
    if declaresMarker s then
      -- Only the first marker gives way to the registry.
      let s' := if injected then s else registryStatement bindings mutables s.span
      match openBody bindings mutables true rest with
      | .error e => .error e
      | .ok (rest', done) => .ok (s' :: rest', done)
    else
      match openDeclaration s with
      | .error e => .error e
      | .ok s' =>
        match openBody bindings mutables injected rest with
        | .error e => .error e
        | .ok (rest', done) => .ok (s' :: rest', done)

/-- What came of a module: whether it was opened, whether the marker was replaced, the names
that were given to the registry, and the module as it is now. -/
structure Outcome where
  opened : Bool
  injected : Bool
  bindings : List String
  mutables : List String
  tree : Module

/-- The outcome of leaving a module as it is. -/
def Outcome.unchanged (tree : Module) : Outcome := ⟨false, false, [], [], tree⟩

/-- Opens a module if its text asks for it. -/
def openTree (tree : Module) (source : String) : Except HintError Outcome :=
  if asksToOpen source then
    match scopeOf tree with
    | .error e => .error (.unreadable e)
    | .ok scope =>
      let bindings := scope.names [markerName]
      let mutables := scope.mutables [markerName]
      match openBody bindings mutables false tree.body with
      | .error e => .error e
      | .ok (body, injected) => .ok ⟨true, injected, bindings, mutables, ⟨body⟩⟩
  else .ok (.unchanged tree)

/-- The text of the opened module.  A text that does not ask for it or cannot be read stays as it
is. -/
def openText (source : String) : Except HintError String :=
  if asksToOpen source then
    match readModule source with
    | .error _ => .ok source
    | .ok tree =>
      match openTree tree source with
      | .error e => .error e
      | .ok outcome =>
        match outcome.tree.text with
        | .error e => .error (.unwritable e)
        | .ok text => .ok text
  else .ok source

end Standin
