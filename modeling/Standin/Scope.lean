/-
The names bound in a module's own scope.

Each name is listed once, in the order of first bindings.  Functions, classes,
lambdas and comprehensions are scopes of their own and are not looked into.
-/
import Standin.Source.Node
import Standin.Hint

set_option autoImplicit false

namespace Standin

open Source

/-- How a name is declared. -/
inductive DeclarationKind where
  | constant
  | mutable
  | function
  | cls
  | imported
  deriving DecidableEq, Repr, Inhabited

/-- A name with the way it is declared and the node that first binds it. -/
structure Binding where
  name : String
  kind : DeclarationKind
  node : Node

/-- The table of a module's bindings, in the order of first bindings. -/
structure Scope where
  bindings : List Binding

namespace Scope

/-- The table without bindings. -/
def empty : Scope := ⟨[]⟩

/-- The binding of a name, if it has one. -/
def get? (s : Scope) (name : String) : Option Binding :=
  s.bindings.find? (·.name == name)

/-- Whether a name is bound. -/
def contains (s : Scope) (name : String) : Bool := (s.get? name).isSome

/-- The number of names. -/
def size (s : Scope) : Nat := s.bindings.length

/-- Records that a name is bound.  The first binding stays; only a plain assignment changes how the
name is declared, and makes it mutable. -/
def bind (s : Scope) (b : Binding) : Scope :=
  if s.contains b.name then
    -- The place and the node of the first binding stay in any case.
    if b.kind = .mutable then
      ⟨s.bindings.map fun old => if old.name == b.name then { old with kind := .mutable } else old⟩
    else s
  else ⟨s.bindings ++ [b]⟩

/-- The bound names but those in `exclude`. -/
def names (s : Scope) (exclude : List String) : List String :=
  (s.bindings.map (·.name)).filter (!exclude.contains ·)

/-- The names that may be assigned again, but those in `exclude`. -/
def mutables (s : Scope) (exclude : List String) : List String :=
  ((s.bindings.filter (·.kind == .mutable)).map (·.name)).filter (!exclude.contains ·)

end Scope

/-! ## Collecting the bindings of a tree -/

/-- What is done at a node: a name is bound, or a part of it is visited. -/
inductive Visit where
  | bind (b : Binding)
  | enter (n : Node)

/-- Visits all parts of a node. -/
def enterAll (n : Node) : List Visit := n.children.map .enter

/-- The name an import binds: the one it is given, or the first part of the module's name. -/
def Source.Alias.boundName (a : Alias) : String :=
  a.asName.getD (String.ofList (a.name.toList.takeWhile (· != '.')))

/-- A name bound by plain assignment, if there is one. -/
def bindMutable (name : Option String) (n : Node) : List Visit :=
  name.toList.map fun id => .bind ⟨id, .mutable, n⟩

/-- What is done at a node, in order.  Only the annotation of a binding is looked at for its kind;
it is never visited. -/
def visits (n : Node) : Except ReadError (List Visit) :=
  match n with
  | .stmt (.function _ name _ _ _ _ _) => .ok [.bind ⟨name, .function, n⟩]
  | .stmt (.classDef name _ _ _ _ _) => .ok [.bind ⟨name, .cls, n⟩]
  | .expr (.lambda _ _ _) | .expr (.comprehension _ _ _ _) | .expr (.dictComprehension _ _ _ _) =>
    .ok []
  | .stmt (.importModules aliases _) =>
    .ok (aliases.map fun a => .bind ⟨a.boundName, .imported, n⟩)
  | .stmt (.importFrom _ aliases _ _) =>
    .ok ((aliases.filter (·.name != "*")).map fun a =>
      .bind ⟨a.asName.getD a.name, .imported, n⟩)
  -- An annotation alone binds nothing.
  | .stmt (.annAssign _ _ none _ _) => .ok []
  | .stmt (.annAssign target hint (some value) _ _) =>
    match target with
    | .name id _ _ =>
      match isFinalHint hint with
      | .ok final =>
        .ok [.bind ⟨id, if final then .constant else .mutable, n⟩, .enter (.expr value)]
      | .error e => .error e
    | _ => .ok [.enter (.expr target), .enter (.expr value)]
  | .expr (.name id .store _) => .ok [.bind ⟨id, .mutable, n⟩]
  | .pattern (.capture _ name _) => .ok (bindMutable name n ++ enterAll n)
  | .pattern (.star name _) => .ok (bindMutable name n)
  | .pattern (.mapping _ rest _) => .ok (enterAll n ++ bindMutable rest n)
  | n => .ok (enterAll n)

/-- Only parts of a node are visited from it. -/
theorem mem_children_of_mem_visits {n m : Node} {vs : List Visit} (h : visits n = .ok vs)
    (hm : .enter m ∈ vs) : m ∈ n.children := by
  have enter {n : Node} : Visit.enter m ∈ enterAll n → m ∈ n.children := by
    simp [enterAll]
  have not_bind (name : Option String) : Visit.enter m ∉ bindMutable name n := by
    simp [bindMutable]
  unfold visits at h
  split at h
  case h_9 =>
    -- An annotated assignment: its value is visited, and its target unless that is a name.
    split at h
    · split at h
      · injection h with h
        subst h
        simp at hm
        simp [hm, Node.children, Node.ofStmt, Node.ofExpr?]
      · cases h
    · injection h with h
      subst h
      simp at hm
      rcases hm with hm | hm <;> simp [hm, Node.children, Node.ofStmt, Node.ofExpr?]
  all_goals
    injection h with h
    subst h
  case h_11 => exact (List.mem_append.1 hm).elim (absurd · (not_bind _)) enter
  case h_12 => exact absurd hm (not_bind _)
  case h_13 => exact (List.mem_append.1 hm).elim enter (absurd · (not_bind _))
  case h_14 => exact enter hm
  all_goals simp at hm

/-- The bindings of a node and of what is visited from it, in order.  The only error is that of an
annotation that cannot even be tried to be read. -/
def bindingsOf (n : Node) : Except ReadError (List Binding) :=
  match h : visits n with
  | .error e => .error e
  | .ok vs => do
    let found ← vs.attach.mapM fun ⟨v, hv⟩ =>
      match v, hv with
      | .bind b, _ => return [b]
      | .enter m, hm =>
        have := Node.sizeOf_lt_of_mem_children (mem_children_of_mem_visits h hm)
        bindingsOf m
    return found.flatten
termination_by sizeOf n

/-- The table of a module's bindings. -/
def scopeOf (m : Module) : Except ReadError Scope := do
  let found ← m.body.mapM fun s => bindingsOf (.stmt s)
  return found.flatten.foldl Scope.bind .empty

end Standin
