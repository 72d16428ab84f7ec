/-
The tree as one family of nodes.

What is said of every part of a tree, whatever its kind -- that it is visited,
that it has a place, that it is allowed where it stands -- is said over `Node`.
`Node.children` gives the parts of a node in the order in which the tree is
visited, and a child is smaller than its parent, which is all that a recursion
over a tree needs to know.
-/
import Standin.Source.Tree

set_option autoImplicit false

namespace Standin.Source

/-- Any part of a tree. -/
inductive Node where
  | stmt (s : Stmt)
  | expr (e : Expr)
  | pattern (p : Pattern)
  | handler (h : Handler)
  | matchCase (c : MatchCase)
  | withItem (w : WithItem)
  | importAlias (a : Alias)
  | parameters (p : Parameters)
  | parameter (p : Parameter)
  | keyword (k : Keyword)
  | clause (c : Clause)

namespace Node

/-- Where the node stands; parts that only group others have no place of their own. -/
def span? : Node → Option Span
  | .stmt s => some s.span
  | .expr e => some e.span
  | .pattern p => some p.span
  | .handler h => some h.span
  | .importAlias a => some a.span
  | .parameter p => some p.span
  | .keyword k => some k.span
  | .matchCase _ | .withItem _ | .parameters _ | .clause _ => none

/-- Nodes of a list of expressions. -/
def ofExprs (es : List Expr) : List Node := es.map .expr

/-- Nodes of a list of statements. -/
def ofStmts (ss : List Stmt) : List Node := ss.map .stmt

/-- The node of an expression that may be left out. -/
def ofExpr? (e : Option Expr) : List Node := e.toList.map .expr

/-- The parts of an expression: of a dictionary all keys come before all values. -/
def ofExpr : Expr → List Node
  | .boolOp _ es _ => ofExprs es
  | .named t v _ => [.expr t, .expr v]
  | .binary l _ r _ => [.expr l, .expr r]
  | .unary _ e _ => [.expr e]
  | .lambda ps body _ => [.parameters ps, .expr body]
  | .conditional test body orElse _ => [.expr test, .expr body, .expr orElse]
  | .dict items _ => ofExprs (items.filterMap (·.key)) ++ ofExprs (items.map (·.value))
  | .set es _ => ofExprs es
  | .comprehension _ e cs _ => .expr e :: cs.map .clause
  | .dictComprehension k v cs _ => .expr k :: .expr v :: cs.map .clause
  | .await e _ => [.expr e]
  | .yield e _ => ofExpr? e
  | .yieldFrom e _ => [.expr e]
  | .compare l rest _ => .expr l :: ofExprs (rest.map (·.operand))
  | .call f args kws _ => .expr f :: (ofExprs args ++ kws.map .keyword)
  | .formatted v _ spec _ => .expr v :: ofExpr? spec
  | .joined es _ => ofExprs es
  | .constant _ _ _ => []
  | .attribute e _ _ _ => [.expr e]
  | .subscript e s _ _ => [.expr e, .expr s]
  | .starred e _ _ => [.expr e]
  | .name _ _ _ => []
  | .list es _ _ => ofExprs es
  | .tuple es _ _ => ofExprs es
  | .slice l u s _ => ofExpr? l ++ ofExpr? u ++ ofExpr? s

/-- The parts of a pattern: of a mapping all keys come before all patterns. -/
def ofPattern : Pattern → List Node
  | .value e _ => [.expr e]
  | .singleton _ _ => []
  | .sequence ps _ => ps.map .pattern
  | .mapping es _ _ => ofExprs (es.map (·.key)) ++ es.map (.pattern ·.pattern)
  | .cls c ps ks _ => .expr c :: (ps.map .pattern ++ ks.map (.pattern ·.pattern))
  | .star _ _ => []
  | .capture p _ _ => p.toList.map .pattern
  | .either ps _ => ps.map .pattern

/-- The parts of a statement. -/
def ofStmt : Stmt → List Node
  | .function _ _ ps body decorators returns _ =>
    .parameters ps :: (ofStmts body ++ ofExprs decorators ++ ofExpr? returns)
  | .classDef _ bases kws body decorators _ =>
    ofExprs bases ++ kws.map .keyword ++ ofStmts body ++ ofExprs decorators
  | .ret v _ => ofExpr? v
  | .delete ts _ => ofExprs ts
  | .assign ts v _ => ofExprs ts ++ [.expr v]
  | .augAssign t _ v _ => [.expr t, .expr v]
  | .annAssign t a v _ _ => .expr t :: .expr a :: ofExpr? v
  | .for _ t i body orElse _ => .expr t :: .expr i :: (ofStmts body ++ ofStmts orElse)
  | .while t body orElse _ => .expr t :: (ofStmts body ++ ofStmts orElse)
  | .if t body orElse _ => .expr t :: (ofStmts body ++ ofStmts orElse)
  | .with _ items body _ => items.map .withItem ++ ofStmts body
  | .match e cs _ => .expr e :: cs.map .matchCase
  | .raise e c _ => ofExpr? e ++ ofExpr? c
  | .try _ body hs orElse final _ =>
    ofStmts body ++ hs.map .handler ++ ofStmts orElse ++ ofStmts final
  | .assert t m _ => .expr t :: ofExpr? m
  | .importModules as _ => as.map .importAlias
  | .importFrom _ as _ _ => as.map .importAlias
  | .global _ _ | .nonlocal _ _ => []
  | .expr e _ => [.expr e]
  | .pass _ | .break _ | .continue _ => []

/-- The parts of a node, in the order in which they are visited. -/
def children : Node → List Node
  | .stmt s => ofStmt s
  | .expr e => ofExpr e
  | .pattern p => ofPattern p
  | .handler h => ofExpr? h.type ++ ofStmts h.body
  | .matchCase c => .pattern c.pattern :: (ofExpr? c.guard ++ ofStmts c.body)
  | .withItem w => .expr w.context :: ofExpr? w.target
  | .importAlias _ => []
  | .parameters ps =>
    ps.positionalOnly.map .parameter ++ ps.positional.map .parameter ++
      ps.variadic.toList.map .parameter ++ ps.keywordOnly.map (.parameter ·.parameter) ++
      ofExprs (ps.keywordOnly.filterMap (·.default)) ++
      ps.keywordVariadic.toList.map .parameter ++ ofExprs ps.defaults
  | .parameter p => ofExpr? p.hint
  | .keyword k => [.expr k.value]
  | .clause c => .expr c.target :: .expr c.iter :: ofExprs c.conditions

/-! ## A child is smaller than its parent -/

section Size

variable {m : Node}

theorem sizeOf_le_of_mem_ofExprs {es : List Expr} (h : m ∈ ofExprs es) : sizeOf m ≤ sizeOf es := by
  obtain ⟨e, he, rfl⟩ := List.mem_map.1 h
  have := List.sizeOf_lt_of_mem he
  simp; omega

theorem sizeOf_le_of_mem_ofStmts {ss : List Stmt} (h : m ∈ ofStmts ss) : sizeOf m ≤ sizeOf ss := by
  obtain ⟨s, hs, rfl⟩ := List.mem_map.1 h
  have := List.sizeOf_lt_of_mem hs
  simp; omega

theorem sizeOf_le_of_mem_ofExpr? {e : Option Expr} (h : m ∈ ofExpr? e) : sizeOf m ≤ sizeOf e := by
  cases e with
  | none => simp [ofExpr?] at h
  | some e => simp [ofExpr?] at h; simp [h]

/-- A part of an element of a list is smaller than the list. -/
theorem sizeOf_le_of_mem_map {α : Type} [SizeOf α] {f : α → Node} {as : List α}
    (hf : ∀ a, sizeOf (f a) ≤ sizeOf a + 1) (h : m ∈ as.map f) : sizeOf m ≤ sizeOf as := by
  obtain ⟨a, ha, rfl⟩ := List.mem_map.1 h
  have := List.sizeOf_lt_of_mem ha
  have := hf a
  omega

/-- A part that some elements of a list have is smaller than the list. -/
theorem sizeOf_le_of_mem_filterMap {α : Type} [SizeOf α] {f : α → Option Expr} {as : List α}
    (hf : ∀ a, sizeOf (f a) ≤ sizeOf a) (h : m ∈ ofExprs (as.filterMap f)) :
    sizeOf m ≤ sizeOf as := by
  obtain ⟨e, he, rfl⟩ := List.mem_map.1 h
  obtain ⟨a, ha, hae⟩ := List.mem_filterMap.1 he
  have := List.sizeOf_lt_of_mem ha
  have h₂ := hf a
  rw [hae] at h₂
  simp at h₂ ⊢
  omega

theorem sizeOf_le_of_mem_ofExprs_map {α : Type} [SizeOf α] {f : α → Expr} {as : List α}
    (hf : ∀ a, sizeOf (f a) ≤ sizeOf a) (h : m ∈ ofExprs (as.map f)) : sizeOf m ≤ sizeOf as := by
  refine sizeOf_le_of_mem_map (f := fun a => .expr (f a)) (fun a => ?_) (by simpa [ofExprs] using h)
  have := hf a
  simp; omega

theorem sizeOf_le_of_mem_toList {α : Type} [SizeOf α] {f : α → Node} {a : Option α}
    (hf : ∀ a, sizeOf (f a) ≤ sizeOf a + 1) (h : m ∈ a.toList.map f) : sizeOf m ≤ sizeOf a := by
  cases a with
  | none => simp at h
  | some a =>
    have := hf a
    simp at h
    simp [h]; omega

theorem sizeOf_key_le (i : DictItem) : sizeOf i.key ≤ sizeOf i := by
  cases i; simp; omega
theorem sizeOf_value_le (i : DictItem) : sizeOf i.value ≤ sizeOf i := by
  cases i; simp
theorem sizeOf_operand_le (i : Comparison) : sizeOf i.operand ≤ sizeOf i := by
  cases i; simp
theorem sizeOf_keywordPattern_le (i : KeywordPattern) :
    sizeOf (Node.pattern i.pattern) ≤ sizeOf i + 1 := by
  cases i; simp; omega
theorem sizeOf_entryPattern_le (i : PatternEntry) :
    sizeOf (Node.pattern i.pattern) ≤ sizeOf i + 1 := by
  cases i; simp; omega
theorem sizeOf_keywordOnly_le (i : KeywordParameter) :
    sizeOf (Node.parameter i.parameter) ≤ sizeOf i + 1 := by
  cases i; simp; omega
theorem sizeOf_entryKey_le (i : PatternEntry) : sizeOf i.key ≤ sizeOf i := by
  cases i; simp; omega
theorem sizeOf_default_le (i : KeywordParameter) : sizeOf i.default ≤ sizeOf i := by
  cases i; simp

theorem sizeOf_le_of_mem_ofExpr {e : Expr} (h : m ∈ ofExpr e) : sizeOf m ≤ sizeOf e := by
  cases e <;>
    simp only [ofExpr, List.mem_append, List.mem_cons, List.not_mem_nil, or_false] at h <;>
    (repeat' rcases h with h | h) <;>
    first
    | (simp <;> omega)
    | (have hle := sizeOf_le_of_mem_ofExprs h; simp; omega)
    | (have hle := sizeOf_le_of_mem_ofExpr? h; simp; omega)
    | (have hle := sizeOf_le_of_mem_filterMap sizeOf_key_le h; simp; omega)
    | (have hle := sizeOf_le_of_mem_ofExprs_map sizeOf_value_le h; simp; omega)
    | (have hle := sizeOf_le_of_mem_ofExprs_map sizeOf_operand_le h; simp; omega)
    | (have hle := sizeOf_le_of_mem_map (by intro a; simp; omega) h; simp; omega)

theorem sizeOf_le_of_mem_ofPattern {p : Pattern} (h : m ∈ ofPattern p) : sizeOf m ≤ sizeOf p := by
  cases p <;>
    simp only [ofPattern, List.mem_append, List.mem_cons, List.not_mem_nil, or_false] at h <;>
    (repeat' rcases h with h | h) <;>
    first
    | (simp <;> omega)
    | (have hle := sizeOf_le_of_mem_map sizeOf_keywordPattern_le h; simp; omega)
    | (have hle := sizeOf_le_of_mem_map sizeOf_entryPattern_le h; simp; omega)
    | (have hle := sizeOf_le_of_mem_ofExprs_map sizeOf_entryKey_le h; simp; omega)
    | (have hle := sizeOf_le_of_mem_toList (by intro a; simp; omega) h; simp; omega)
    | (have hle := sizeOf_le_of_mem_map (by intro a; simp; omega) h; simp; omega)

theorem sizeOf_le_of_mem_ofStmt {s : Stmt} (h : m ∈ ofStmt s) : sizeOf m ≤ sizeOf s := by
  cases s <;>
    simp only [ofStmt, List.mem_append, List.mem_cons, List.not_mem_nil, or_false] at h <;>
    (repeat' rcases h with h | h) <;>
    first
    | (simp <;> omega)
    | (have hle := sizeOf_le_of_mem_ofExprs h; simp; omega)
    | (have hle := sizeOf_le_of_mem_ofStmts h; simp; omega)
    | (have hle := sizeOf_le_of_mem_ofExpr? h; simp; omega)
    | (have hle := sizeOf_le_of_mem_map (by intro a; simp; omega) h; simp; omega)

/-- A recursion over a tree may go from a node to its parts. -/
theorem sizeOf_lt_of_mem_children {n : Node} (h : m ∈ n.children) : sizeOf m < sizeOf n := by
  cases n with
  | stmt s => have := sizeOf_le_of_mem_ofStmt h; simp; omega
  | expr e => have := sizeOf_le_of_mem_ofExpr h; simp; omega
  | pattern p => have := sizeOf_le_of_mem_ofPattern h; simp; omega
  | importAlias a => simp [children] at h
  | _ x =>
    cases x
    simp only [children, List.mem_append, List.mem_cons, List.not_mem_nil, or_false] at h
    repeat' rcases h with h | h
    all_goals first
    | (simp; omega)
    | (have hle := sizeOf_le_of_mem_ofExprs h; simp; omega)
    | (have hle := sizeOf_le_of_mem_ofStmts h; simp; omega)
    | (have hle := sizeOf_le_of_mem_ofExpr? h; simp; omega)
    | (have hle := sizeOf_le_of_mem_map sizeOf_keywordOnly_le h; simp; omega)
    | (have hle := sizeOf_le_of_mem_toList (by intro a; simp; omega) h; simp; omega)
    | (have hle := sizeOf_le_of_mem_filterMap sizeOf_default_le h; simp; omega)
    | (have hle := sizeOf_le_of_mem_map (by intro a; simp; omega) h; simp; omega)

end Size

/-- The nodes that a walk comes to which goes to smaller parts only, each before its parts. -/
def reached (parts : Node → List Node) (hparts : ∀ n, ∀ m ∈ parts n, sizeOf m < sizeOf n)
    (n : Node) : List Node :=
  n :: (parts n).attach.flatMap fun ⟨m, h⟩ =>
    have := hparts n m h
    reached parts hparts m
termination_by sizeOf n

/-- The node and everything below it, each node before its parts. -/
def descendants (n : Node) : List Node :=
  n :: n.children.attach.flatMap fun ⟨m, h⟩ =>
    have := sizeOf_lt_of_mem_children h
    descendants m
termination_by sizeOf n

end Node

end Standin.Source
