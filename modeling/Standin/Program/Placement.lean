/-
Statements and annotations at places where they may not stand.

A module may be well formed and yet be refused before it is run: a return that is
in no function, a break or continue that is in no loop, or a directive that does not
stand at the beginning.

An annotation that is not evaluated is a block of code of its own, of which only the
text is kept.  Nothing may be bound in that block, and it may not stop half-way, so that
a module may be refused for its annotations when these are not evaluated, and run when
they are.
-/
import Standin.Program.Library
import Standin.Source.Node
import Standin.Source.Writer

set_option autoImplicit false

namespace Standin.Placement

open Source

/-- Where a statement stands. -/
structure Setting where
  inFunction : Bool
  inLoop : Bool
  deriving DecidableEq, Repr

mutual

/-- Whether a statement, or one in it, stands where it may not stand. -/
def isMisplaced (here : Setting) : Stmt → Bool
  | .ret _ _ => !here.inFunction
  | .break _ | .continue _ => !here.inLoop
  | .nonlocal _ _ => !here.inFunction
  | .function _ _ _ body _ _ _ => anyMisplaced ⟨true, false⟩ body
  | .classDef _ _ _ body _ _ => anyMisplaced ⟨false, false⟩ body
  | .for _ _ _ body orElse _ | .while _ body orElse _ =>
    anyMisplaced { here with inLoop := true } body || anyMisplaced here orElse
  | .if _ body orElse _ => anyMisplaced here body || anyMisplaced here orElse
  | .with _ _ body _ => anyMisplaced here body
  | .match _ cases _ => anyMisplacedCase here cases
  | .try _ body handlers orElse finalBody _ =>
    anyMisplaced here body || anyMisplacedHandler here handlers || anyMisplaced here orElse ||
      anyMisplaced here finalBody
  | _ => false

/-- Whether one of several statements stands where it may not stand. -/
def anyMisplaced (here : Setting) : List Stmt → Bool
  | [] => false
  | s :: rest => isMisplaced here s || anyMisplaced here rest

/-- Whether a statement in one of several handlers stands where it may not stand. -/
def anyMisplacedHandler (here : Setting) : List Handler → Bool
  | [] => false
  | ⟨_, _, body, _⟩ :: rest => anyMisplaced here body || anyMisplacedHandler here rest

/-- Whether a statement in one of several cases stands where it may not stand. -/
def anyMisplacedCase (here : Setting) : List MatchCase → Bool
  | [] => false
  | ⟨_, _, body⟩ :: rest => anyMisplaced here body || anyMisplacedCase here rest

end

/-- The directives that a statement gives, if it gives any. -/
def directives? : Stmt → Option (List String)
  | .importFrom (some module) names 0 _ =>
    if module = Library.directives then some (names.map (·.name)) else none
  | _ => none

/-- Whether a statement is a text that stands alone. -/
def isBareText : Stmt → Bool
  | .expr (.constant (.text _) _ _) _ | .expr (.constant (.surrogates _) _ _) _ => true
  | _ => false

/-- The statements at the beginning of a module that may stand before a directive. -/
def opening (body : List Stmt) : List Stmt :=
  body.takeWhile fun s => isBareText s || (directives? s).isSome

/-- The directives at the beginning of a module. -/
def directivesOf (body : List Stmt) : List String := ((opening body).filterMap directives?).flatten

mutual

/-- Whether a statement, or one in it, gives a directive. -/
def hasDirective : Stmt → Bool
  | .function _ _ _ body _ _ _ | .classDef _ _ _ body _ _ | .with _ _ body _ => anyDirective body
  | .for _ _ _ body orElse _ | .while _ body orElse _ | .if _ body orElse _ =>
    anyDirective body || anyDirective orElse
  | .match _ cases _ => anyDirectiveCase cases
  | .try _ body handlers orElse finalBody _ =>
    anyDirective body || anyDirectiveHandler handlers || anyDirective orElse || anyDirective finalBody
  | .importFrom (some module) _ 0 _ => module = Library.directives
  | _ => false

/-- Whether one of several statements gives a directive. -/
def anyDirective : List Stmt → Bool
  | [] => false
  | s :: rest => hasDirective s || anyDirective rest

/-- Whether a statement in one of several handlers gives a directive. -/
def anyDirectiveHandler : List Handler → Bool
  | [] => false
  | ⟨_, _, body, _⟩ :: rest => anyDirective body || anyDirectiveHandler rest

/-- Whether a statement in one of several cases gives a directive. -/
def anyDirectiveCase : List MatchCase → Bool
  | [] => false
  | ⟨_, _, body⟩ :: rest => anyDirective body || anyDirectiveCase rest

end

/-- Whether every statement of a module stands where it may, and every directive is a known one at
the beginning. -/
def isOrderly (m : Module) : Bool :=
  !anyMisplaced ⟨false, false⟩ m.body && (directivesOf m.body).all Library.knownDirectives.contains &&
    !anyDirective (m.body.drop (opening m.body).length)

/-- Whether the module directs that annotations are not evaluated. -/
def hasLazyHints (m : Module) : Bool := (directivesOf m.body).contains Library.lazyHintsDirective

/-! ## Annotations that are not evaluated -/

/-- An annotation, and whether a text is kept of it when it is not evaluated. -/
structure Deferred where
  hint : Expr
  kept : Bool

mutual

/-- The annotations in a statement.  Nothing is kept of those that the names in a function have. -/
def hintsIn (inFunction : Bool) : Stmt → List Deferred
  | .annAssign _ hint _ simple _ => [⟨hint, simple && !inFunction⟩]
  | .function _ _ params body _ returns _ =>
    (params.hints returns).map (⟨·, true⟩) ++ hintsInAll true body
  | .classDef _ _ _ body _ _ => hintsInAll false body
  | .with _ _ body _ => hintsInAll inFunction body
  | .for _ _ _ body orElse _ | .while _ body orElse _ | .if _ body orElse _ =>
    hintsInAll inFunction body ++ hintsInAll inFunction orElse
  | .match _ cases _ => hintsInCases inFunction cases
  | .try _ body handlers orElse finalBody _ =>
    hintsInAll inFunction body ++ hintsInHandlers inFunction handlers ++
      hintsInAll inFunction orElse ++ hintsInAll inFunction finalBody
  | _ => []

/-- The annotations in several statements. -/
def hintsInAll (inFunction : Bool) : List Stmt → List Deferred
  | [] => []
  | s :: rest => hintsIn inFunction s ++ hintsInAll inFunction rest

/-- The annotations in several handlers. -/
def hintsInHandlers (inFunction : Bool) : List Handler → List Deferred
  | [] => []
  | ⟨_, _, body, _⟩ :: rest => hintsInAll inFunction body ++ hintsInHandlers inFunction rest

/-- The annotations in several cases. -/
def hintsInCases (inFunction : Bool) : List MatchCase → List Deferred
  | [] => []
  | ⟨_, _, body⟩ :: rest => hintsInAll inFunction body ++ hintsInCases inFunction rest

end

/-- The parts of a node that belong to the same block of code.  The body of a lambda is a block of
its own, and so is a comprehension, but for what it goes over first. -/
def inBlock : Node → List Node
  | .expr (.lambda ps _ _) => [.parameters ps]
  | .expr (.comprehension _ _ cs _) | .expr (.dictComprehension _ _ cs _) =>
    cs.head?.toList.map (.expr ·.iter)
  | n => n.children

theorem sizeOf_lt_of_mem_inBlock (n : Node) : ∀ m ∈ inBlock n, sizeOf m < sizeOf n := by
  have hfirst {cs : List Clause} {m : Node} (hm : m ∈ cs.head?.toList.map (Node.expr ·.iter)) :
      ∃ c ∈ cs, sizeOf m < sizeOf (Node.clause c) := by
    obtain ⟨c, hc, rfl⟩ := List.mem_map.mp hm
    refine ⟨c, List.mem_of_mem_head? (Option.mem_toList.mp hc), ?_⟩
    exact Node.sizeOf_lt_of_mem_children (List.mem_cons_of_mem _ List.mem_cons_self)
  intro m hm
  unfold inBlock at hm
  split at hm
  · exact Node.sizeOf_lt_of_mem_children
      (List.mem_cons.mpr (.inl (List.mem_singleton.mp hm)))
  · obtain ⟨c, hc, hlt⟩ := hfirst hm
    exact Nat.lt_trans hlt
      (Node.sizeOf_lt_of_mem_children (List.mem_cons_of_mem _ (List.mem_map_of_mem hc)))
  · obtain ⟨c, hc, hlt⟩ := hfirst hm
    exact Nat.lt_trans hlt (Node.sizeOf_lt_of_mem_children
      (List.mem_cons_of_mem _ (List.mem_cons_of_mem _ (List.mem_map_of_mem hc))))
  · exact Node.sizeOf_lt_of_mem_children hm

/-- Whether a node binds a name in its block, or stops it. -/
def interrupts : Node → Bool
  | .expr (.named ..) | .expr (.await ..) | .expr (.yield ..) | .expr (.yieldFrom ..) => true
  | _ => false

namespace Deferred

/-- Whether nothing is bound in the block that the annotation is, and nothing stops it. -/
def isStill (d : Deferred) : Bool :=
  (Node.reached inBlock sizeOf_lt_of_mem_inBlock (.expr d.hint)).all (!interrupts ·)

/-- Whether the text that is kept of the annotation can be written: no integer in it has too many
digits. -/
def isWritable (d : Deferred) : Bool :=
  !d.kept || (Node.expr d.hint).descendants.all fun
    | .expr (.constant v _ _) => !v.isTooLong
    | _ => true

end Deferred

/-- Whether a module may be run; `lazyHints` says that its annotations are not evaluated. -/
def isRunnable (m : Module) (lazyHints : Bool) : Bool :=
  isOrderly m && (!lazyHints || (hintsInAll false m.body).all Deferred.isStill)

end Standin.Placement
