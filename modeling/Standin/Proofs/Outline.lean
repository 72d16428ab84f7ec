/-
Nothing inside a function, a class, a lambda or a comprehension counts for a module's table.

The outline of a tree is the tree with nothing left in these parts: of a function and of a
class the name is kept, and everything else about them, decorators, parameters, bases and
bodies, is gone.  What is done at a node of the outline is what is done at the node of the
tree (`visits_outline`), annotations included, and so the table of an outline is the outline of
the table, and fails where that fails (`scopeOf_outline`).
-/
import Standin.Proofs.Reach

set_option autoImplicit false

namespace Standin

open Source

/-! ## Outlines -/

namespace Source

/-- What stands where something is left out. -/
def hole (span : Span) : Expr := .constant .ellipsis false span

mutual

/-- The expression with nothing left in its lambdas and comprehensions. -/
def Expr.outline : Expr → Expr
  | .boolOp op es s => .boolOp op (outlineExprs es) s
  | .named t v s => .named t.outline v.outline s
  | .binary l op r s => .binary l.outline op r.outline s
  | .unary op e s => .unary op e.outline s
  | .lambda _ _ s => .lambda default (hole s) s
  | .conditional test body orElse s => .conditional test.outline body.outline orElse.outline s
  | .dict items s => .dict (outlineItems items) s
  | .set es s => .set (outlineExprs es) s
  | .comprehension form _ _ s => .comprehension form (hole s) [] s
  | .dictComprehension _ _ _ s => .dictComprehension (hole s) (hole s) [] s
  | .await e s => .await e.outline s
  | .yield e s => .yield (outlineExpr? e) s
  | .yieldFrom e s => .yieldFrom e.outline s
  | .compare e rest s => .compare e.outline (outlineComparisons rest) s
  | .call f args kws s => .call f.outline (outlineExprs args) (outlineKeywords kws) s
  | .formatted v c spec s => .formatted v.outline c (outlineExpr? spec) s
  | .joined es s => .joined (outlineExprs es) s
  | .constant v marked s => .constant v marked s
  | .attribute e attr u s => .attribute e.outline attr u s
  | .subscript e i u s => .subscript e.outline i.outline u s
  | .starred e u s => .starred e.outline u s
  | .name id u s => .name id u s
  | .list es u s => .list (outlineExprs es) u s
  | .tuple es u s => .tuple (outlineExprs es) u s
  | .slice l u step s => .slice (outlineExpr? l) (outlineExpr? u) (outlineExpr? step) s

def outlineExprs : List Expr → List Expr
  | [] => []
  | e :: rest => e.outline :: outlineExprs rest

def outlineExpr? : Option Expr → Option Expr
  | none => none
  | some e => some e.outline

def outlineItems : List DictItem → List DictItem
  | [] => []
  | ⟨key, value⟩ :: rest => ⟨outlineExpr? key, value.outline⟩ :: outlineItems rest

def outlineComparisons : List Comparison → List Comparison
  | [] => []
  | ⟨op, operand⟩ :: rest => ⟨op, operand.outline⟩ :: outlineComparisons rest

def outlineKeywords : List Keyword → List Keyword
  | [] => []
  | ⟨arg, value, s⟩ :: rest => ⟨arg, value.outline, s⟩ :: outlineKeywords rest

end

mutual

/-- The pattern with nothing left in the lambdas and comprehensions of its expressions. -/
def Pattern.outline : Pattern → Pattern
  | .value e s => .value e.outline s
  | .singleton v s => .singleton v s
  | .sequence ps s => .sequence (outlinePatterns ps) s
  | .mapping es rest s => .mapping (outlineEntries es) rest s
  | .cls c ps ks s => .cls c.outline (outlinePatterns ps) (outlineKeywordPatterns ks) s
  | .star name s => .star name s
  | .capture none name s => .capture none name s
  | .capture (some p) name s => .capture (some p.outline) name s
  | .either ps s => .either (outlinePatterns ps) s

def outlinePatterns : List Pattern → List Pattern
  | [] => []
  | p :: rest => p.outline :: outlinePatterns rest

def outlineEntries : List PatternEntry → List PatternEntry
  | [] => []
  | ⟨key, p⟩ :: rest => ⟨key.outline, p.outline⟩ :: outlineEntries rest

def outlineKeywordPatterns : List KeywordPattern → List KeywordPattern
  | [] => []
  | ⟨attr, p⟩ :: rest => ⟨attr, p.outline⟩ :: outlineKeywordPatterns rest

end

def WithItem.outline (w : WithItem) : WithItem := ⟨w.context.outline, outlineExpr? w.target⟩

mutual

/-- The statement with nothing left in functions, classes, lambdas and comprehensions but the names
of the first two. -/
def Stmt.outline : Stmt → Stmt
  | .function isAsync name _ _ _ _ s => .function isAsync name default [] [] none s
  | .classDef name _ _ _ _ s => .classDef name [] [] [] [] s
  | .ret v s => .ret (outlineExpr? v) s
  | .delete ts s => .delete (outlineExprs ts) s
  | .assign ts v s => .assign (outlineExprs ts) v.outline s
  | .augAssign t op v s => .augAssign t.outline op v.outline s
  | .annAssign t hint v simple s => .annAssign t.outline hint.outline (outlineExpr? v) simple s
  | .for isAsync t i body orElse s =>
    .for isAsync t.outline i.outline (outlineStmts body) (outlineStmts orElse) s
  | .while test body orElse s => .while test.outline (outlineStmts body) (outlineStmts orElse) s
  | .if test body orElse s => .if test.outline (outlineStmts body) (outlineStmts orElse) s
  | .with isAsync items body s => .with isAsync (items.map WithItem.outline) (outlineStmts body) s
  | .match e cs s => .match e.outline (outlineCases cs) s
  | .raise e cause s => .raise (outlineExpr? e) (outlineExpr? cause) s
  | .try isGroup body hs orElse final s =>
    .try isGroup (outlineStmts body) (outlineHandlers hs) (outlineStmts orElse)
      (outlineStmts final) s
  | .assert test message s => .assert test.outline (outlineExpr? message) s
  | .importModules names s => .importModules names s
  | .importFrom module names level s => .importFrom module names level s
  | .global names s => .global names s
  | .nonlocal names s => .nonlocal names s
  | .expr e s => .expr e.outline s
  | .pass s => .pass s
  | .break s => .break s
  | .continue s => .continue s

def outlineStmts : List Stmt → List Stmt
  | [] => []
  | s :: rest => s.outline :: outlineStmts rest

def outlineHandlers : List Handler → List Handler
  | [] => []
  | ⟨type, name, body, s⟩ :: rest =>
    ⟨outlineExpr? type, name, outlineStmts body, s⟩ :: outlineHandlers rest

def outlineCases : List MatchCase → List MatchCase
  | [] => []
  | ⟨p, guard, body⟩ :: rest =>
    ⟨p.outline, outlineExpr? guard, outlineStmts body⟩ :: outlineCases rest

end

def Parameter.outline (p : Parameter) : Parameter := { p with hint := outlineExpr? p.hint }

/-- The module with nothing left in functions, classes, lambdas and comprehensions. -/
def Module.outline (m : Module) : Module := ⟨m.body.map Stmt.outline⟩

/-- The outline of any part of a tree. -/
def Node.outline : Node → Node
  | .stmt s => .stmt s.outline
  | .expr e => .expr e.outline
  | .pattern p => .pattern p.outline
  | .handler h => .handler ⟨outlineExpr? h.type, h.name, outlineStmts h.body, h.span⟩
  | .matchCase c => .matchCase ⟨c.pattern.outline, outlineExpr? c.guard, outlineStmts c.body⟩
  | .withItem w => .withItem w.outline
  | .importAlias a => .importAlias a
  | .parameters ps =>
    .parameters ⟨ps.positionalOnly.map Parameter.outline, ps.positional.map Parameter.outline,
      ps.variadic.map Parameter.outline,
      ps.keywordOnly.map fun k => ⟨k.parameter.outline, outlineExpr? k.default⟩,
      ps.keywordVariadic.map Parameter.outline, outlineExprs ps.defaults⟩
  | .parameter p => .parameter p.outline
  | .keyword k => .keyword ⟨k.arg, k.value.outline, k.span⟩
  | .clause c => .clause ⟨c.target.outline, c.iter.outline, outlineExprs c.conditions, c.isAsync⟩

/-! ## The parts of an outline -/

section Parts

@[simp] theorem outlineExprs_eq_map (es : List Expr) : outlineExprs es = es.map Expr.outline := by
  induction es with
  | nil => rfl
  | cons e rest ih => simp [outlineExprs, ih]

@[simp] theorem outlineExpr?_eq_map (e : Option Expr) : outlineExpr? e = e.map Expr.outline := by
  cases e <;> rfl

@[simp] theorem outlineItems_eq_map (items : List DictItem) :
    outlineItems items = items.map fun i => ⟨i.key.map Expr.outline, i.value.outline⟩ := by
  induction items with
  | nil => rfl
  | cons i rest ih =>
      cases i
      simp [outlineItems, ih]

@[simp] theorem outlineComparisons_eq_map (rest : List Comparison) :
    outlineComparisons rest = rest.map fun c => ⟨c.op, c.operand.outline⟩ := by
  induction rest with
  | nil => rfl
  | cons c rest ih =>
      cases c
      simp [outlineComparisons, ih]

@[simp] theorem outlineKeywords_eq_map (kws : List Keyword) :
    outlineKeywords kws = kws.map fun k => ⟨k.arg, k.value.outline, k.span⟩ := by
  induction kws with
  | nil => rfl
  | cons k rest ih =>
      cases k
      simp [outlineKeywords, ih]

@[simp] theorem outlinePatterns_eq_map (ps : List Pattern) :
    outlinePatterns ps = ps.map Pattern.outline := by
  induction ps with
  | nil => rfl
  | cons p rest ih => simp [outlinePatterns, ih]

@[simp] theorem outlineEntries_eq_map (es : List PatternEntry) :
    outlineEntries es = es.map fun e => ⟨e.key.outline, e.pattern.outline⟩ := by
  induction es with
  | nil => rfl
  | cons e rest ih =>
      cases e
      simp [outlineEntries, ih]

@[simp] theorem outlineKeywordPatterns_eq_map (ks : List KeywordPattern) :
    outlineKeywordPatterns ks = ks.map fun k => ⟨k.attr, k.pattern.outline⟩ := by
  induction ks with
  | nil => rfl
  | cons k rest ih =>
      cases k
      simp [outlineKeywordPatterns, ih]

@[simp] theorem outlineStmts_eq_map (ss : List Stmt) :
    outlineStmts ss = ss.map Stmt.outline := by
  induction ss with
  | nil => rfl
  | cons s rest ih => simp [outlineStmts, ih]

@[simp] theorem outlineHandlers_eq_map (hs : List Handler) :
    outlineHandlers hs = hs.map fun h =>
      ⟨h.type.map Expr.outline, h.name, h.body.map Stmt.outline, h.span⟩ := by
  induction hs with
  | nil => rfl
  | cons h rest ih =>
      cases h
      simp [outlineHandlers, ih]

@[simp] theorem outlineCases_eq_map (cs : List MatchCase) :
    outlineCases cs = cs.map fun c =>
      ⟨c.pattern.outline, c.guard.map Expr.outline, c.body.map Stmt.outline⟩ := by
  induction cs with
  | nil => rfl
  | cons c rest ih =>
      cases c
      simp [outlineCases, ih]

/-- Whether the node is a scope of its own. -/
def Node.isScope : Node → Bool
  | .stmt (.function _ _ _ _ _ _ _) | .stmt (.classDef _ _ _ _ _ _) => true
  | .expr (.lambda _ _ _) | .expr (.comprehension _ _ _ _) | .expr (.dictComprehension _ _ _ _) =>
    true
  | _ => false

/-- The parts of an outline are the outlines of the parts, but of a scope nothing is left. -/
theorem children_outline {n : Node} (h : n.isScope = false) :
    n.outline.children = n.children.map Node.outline := by
  cases n with
  | expr e =>
      cases e <;> simp_all [Node.children, Node.ofExpr, Expr.outline, Node.outline, Node.ofExprs,
        Node.ofExpr?, Function.comp_def, List.filterMap_map, List.map_filterMap, Node.isScope,
        Option.toList_map]
  | pattern p =>
      cases p
      case capture p name s =>
        cases p <;> simp [Node.children, Node.ofPattern, Pattern.outline, Node.outline]
      all_goals
        simp [Node.children, Node.ofPattern, Pattern.outline, Node.outline, Node.ofExprs,
          Function.comp_def]
  | stmt s =>
      cases s <;> simp_all [Node.children, Node.ofStmt, Stmt.outline, Node.outline, Node.ofExprs,
        Node.ofStmts, Node.ofExpr?, Function.comp_def, Node.isScope, Option.toList_map]
  | _ x =>
      cases x
      simp [Node.children, Node.outline, Node.ofExprs, Node.ofStmts, Node.ofExpr?,
        Function.comp_def, Option.toList_map, WithItem.outline, Parameter.outline,
        List.filterMap_map, List.map_filterMap]

end Parts

end Source

/-! ## What is done at a node of an outline -/

/-- Whether an expression is the final qualifier can be seen from its outline. -/
theorem isFinalForm_outline (e : Expr) : isFinalForm e.outline = isFinalForm e := by
  have hname (e : Expr) : isFinalName e.outline = isFinalName e := by
    cases e <;> rfl
  cases e <;> first | rfl | exact hname _

theorem isFinalHint_outline (hint : Expr) : isFinalHint hint.outline = isFinalHint hint := by
  have hform := isFinalForm_outline hint
  cases hint
  case constant v marked s => rfl
  all_goals exact congrArg Except.ok hform

def Binding.outline (b : Binding) : Binding := { b with node := b.node.outline }

def Visit.outline : Visit → Visit
  | .bind b => .bind b.outline
  | .enter n => .enter n.outline

theorem enterAll_outline {n : Node} (h : n.isScope = false) :
    enterAll n.outline = (enterAll n).map Visit.outline := by
  simp [enterAll, children_outline h, Visit.outline, Function.comp_def]

theorem bindMutable_outline (name : Option String) (n : Node) :
    bindMutable name n.outline = (bindMutable name n).map Visit.outline := by
  cases name <;> rfl

/-- That what is done at a node of the outline is what is done at the node. -/
def OutlinesVisits (n : Node) : Prop := visits n.outline = (visits n).map (List.map Visit.outline)

/-- It is so where nothing is done but to go on to all parts. -/
theorem outlinesVisits_of_enterAll {n : Node} (h : n.isScope = false)
    (hn : visits n = .ok (enterAll n)) (ho : visits n.outline = .ok (enterAll n.outline)) :
    OutlinesVisits n := by
  unfold OutlinesVisits
  rw [ho, hn, enterAll_outline h]
  rfl

theorem outlinesVisits_stmt (s : Stmt) : OutlinesVisits (.stmt s) := by
  unfold OutlinesVisits
  cases s
  case function isAsync name ps body decorators returns span => rfl
  case classDef name bases kws body decorators span => rfl
  case importModules names span | importFrom module names level span =>
    simp [visits, Node.outline, Stmt.outline, Except.map, Visit.outline, Binding.outline]
  case annAssign target hint value simple span =>
    -- Only the declaration of a name with a value looks at its annotation.
    cases value with
    | none => rfl
    | some value =>
        cases target
        case name id usage place =>
          simp only [Node.outline, Stmt.outline, Expr.outline, outlineExpr?, visits,
            isFinalHint_outline]
          cases isFinalHint hint <;> rfl
        all_goals rfl
  all_goals exact outlinesVisits_of_enterAll rfl rfl rfl

theorem outlinesVisits_expr (e : Expr) : OutlinesVisits (.expr e) := by
  unfold OutlinesVisits
  cases e
  case name id usage span => cases usage <;> rfl
  all_goals first | rfl | exact outlinesVisits_of_enterAll rfl rfl rfl

theorem outlinesVisits_pattern (p : Pattern) : OutlinesVisits (.pattern p) := by
  unfold OutlinesVisits
  cases p
  -- A name is bound before the pattern of a capture is entered, and after the keys of a mapping.
  case capture inner name span =>
    have hvisits : visits (Node.pattern (.capture inner name span)).outline =
        .ok (bindMutable name (Node.pattern (.capture inner name span)).outline ++
          enterAll (Node.pattern (.capture inner name span)).outline) := by
      cases inner <;> rfl
    rw [hvisits, bindMutable_outline, enterAll_outline rfl, ← List.map_append]
    rfl
  case star name span => exact congrArg Except.ok (bindMutable_outline name _)
  case mapping es rest span =>
    have hvisits : visits (Node.pattern (.mapping es rest span)).outline =
        .ok (enterAll (Node.pattern (.mapping es rest span)).outline ++
          bindMutable rest (Node.pattern (.mapping es rest span)).outline) := rfl
    rw [hvisits, bindMutable_outline, enterAll_outline rfl, ← List.map_append]
    rfl
  all_goals exact outlinesVisits_of_enterAll rfl rfl rfl

/-- What is done at a node of the outline is what is done at the node. -/
theorem visits_outline (n : Node) :
    visits n.outline = (visits n).map (List.map Visit.outline) := by
  cases n with
  | stmt s => exact outlinesVisits_stmt s
  | expr e => exact outlinesVisits_expr e
  | pattern p => exact outlinesVisits_pattern p
  | _ => exact outlinesVisits_of_enterAll rfl rfl rfl

/-! ## The table of an outline -/

theorem mapM_map_of_forall {ε α β : Type} {f : α → Except ε β} {g : α → α} {k : β → β}
    {l : List α} (h : ∀ a ∈ l, f (g a) = (f a).map k) :
    (l.map g).mapM f = (l.mapM f).map (List.map k) := by
  induction l with
  | nil => rfl
  | cons a l ih =>
      obtain ⟨ha, hl⟩ := List.forall_mem_cons.mp h
      rw [List.map_cons, List.mapM_cons, List.mapM_cons, ha, ih hl]
      cases f a with
      | error e => rfl
      | ok b => cases l.mapM f <;> rfl

/-- The bindings found at a node of the outline are those found at the node. -/
theorem bindingsOf_outline (n : Node) :
    bindingsOf n.outline = (bindingsOf n).map (List.map Binding.outline) := by
  induction n using Node.induction with
  | _ n ih =>
    rw [bindingsOf_eq, bindingsOf_eq, visits_outline]
    cases hvisits : visits n with
    | error e => rfl
    | ok vs =>
        have hsteps : (vs.map Visit.outline).mapM Visit.bindings =
            (vs.mapM Visit.bindings).map (List.map (List.map Binding.outline)) := by
          refine mapM_map_of_forall fun v hv => ?_
          cases v with
          | bind b => rfl
          | enter m => exact ih m (mem_children_of_mem_visits hvisits hv)
        simp only [Except.map, bind, Except.bind, hsteps]
        cases vs.mapM Visit.bindings with
        | error e => rfl
        | ok found => simp [pure, Except.pure, List.map_flatten]

namespace Scope

/-- The table with the outlines of its nodes. -/
def outline (s : Scope) : Scope := ⟨s.bindings.map Binding.outline⟩

theorem outline_bind (s : Scope) (b : Binding) : (s.bind b).outline = s.outline.bind b.outline := by
  have hcontains : s.outline.contains b.outline.name = s.contains b.name := by
    simp [outline, contains, get?, List.find?_map, Function.comp_def, Binding.outline]
  unfold bind
  rw [hcontains]
  split
  · have hkind : b.outline.kind = b.kind := rfl
    rw [hkind]
    split
    · simp only [outline, List.map_map, Scope.mk.injEq]
      refine List.map_congr_left fun old _ => ?_
      by_cases hname : old.name = b.name <;> simp [Binding.outline, hname]
    · rfl
  · simp [outline]

theorem outline_foldl_bind (s : Scope) (bs : List Binding) :
    (bs.foldl bind s).outline = (bs.map Binding.outline).foldl bind s.outline := by
  induction bs generalizing s with
  | nil => rfl
  | cons b bs ih => rw [List.foldl_cons, ih, outline_bind, List.map_cons, List.foldl_cons]

end Scope

/-- **The table of an outline is the outline of the table.**  It has the same names in the same
order, each declared in the same way; and there is none where there is none of the tree. -/
theorem scopeOf_outline (m : Module) : scopeOf m.outline = (scopeOf m).map Scope.outline := by
  have hbody : (m.body.map Stmt.outline).mapM (fun s => bindingsOf (.stmt s)) =
      (m.body.mapM fun s => bindingsOf (.stmt s)).map (List.map (List.map Binding.outline)) :=
    mapM_map_of_forall fun s _ => bindingsOf_outline (.stmt s)
  simp only [scopeOf, Module.outline, hbody]
  cases m.body.mapM fun s => bindingsOf (.stmt s) with
  | error e => rfl
  | ok found =>
      refine congrArg Except.ok ?_
      rw [Scope.outline_foldl_bind, List.map_flatten]
      rfl

end Standin
