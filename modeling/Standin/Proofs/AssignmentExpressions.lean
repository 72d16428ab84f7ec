/-
Assignment expressions, and the names they bind for a module.

Where an assignment expression binds its name is not told by the scope that it is nested in.  A
function, a class or a lambda has a body of its own, but decorators, defaults, bases and annotations
are evaluated outside of that body; and from a comprehension the name comes out altogether.
`Node.evaluated` goes to what is evaluated with the bindings of the scope that a node stands in, by
these rules.

The table of a module follows a simpler rule: what opens a scope is not entered at all, and neither
are annotations (`Node.secluded`).  Between the two there is nothing else: an assignment expression
that is evaluated in the scope of a module is in the table, unless it is secluded
(`scopeOf_records_named`).
-/
import Standin.Proofs.Occurrences

set_option autoImplicit false

namespace Standin

open Source

namespace Source.Node

/-- The parts of a node in which an assignment expression binds its name in the scope that the node
stands in: all but the bodies of functions, classes and lambdas.  A comprehension has a scope of its
own, but not for these names. -/
def evaluated : Node → List Node
  | .stmt (.function _ _ ps _ decorators returns _) =>
    .parameters ps :: (ofExprs decorators ++ ofExpr? returns)
  | .stmt (.classDef _ bases keywords _ decorators _) =>
    ofExprs bases ++ keywords.map .keyword ++ ofExprs decorators
  | .expr (.lambda ps _ _) => [.parameters ps]
  | n => n.children

/-- Those of them that the table of a module has nothing from: all parts of a comprehension, the
head of a function, a class or a lambda, annotations, and what is annotated where there is no
value. -/
def secluded (n : Node) : List Node :=
  match n with
  | .stmt (.annAssign target hint none _ _) => [.expr target, .expr hint]
  | .stmt (.annAssign _ hint (some _) _ _) => [.expr hint]
  | n => if n.isScope then n.evaluated else []

theorem mem_children_of_mem_evaluated {n m : Node} (hm : m ∈ n.evaluated) : m ∈ n.children := by
  unfold evaluated at hm
  split at hm
  · simp only [children, ofStmt, List.mem_cons, List.mem_append] at hm ⊢
    obtain rfl | hm | hm := hm
    · exact .inl rfl
    · exact .inr (.inl (.inr hm))
    · exact .inr (.inr hm)
  · simp only [children, ofStmt, List.mem_append] at hm ⊢
    obtain hm | hm := hm
    · exact .inl (.inl hm)
    · exact .inr hm
  · simp only [children, ofExpr, List.mem_cons, List.not_mem_nil, or_false] at hm ⊢
    exact .inl hm
  · exact hm

instance (P : Node → Prop) [DecidablePred P] (n : Node) : Decidable (n.Every evaluated P) :=
  decidable_of_iff _ (every_iff_reached fun _ _ hm =>
    sizeOf_lt_of_mem_children (mem_children_of_mem_evaluated hm)).symm

theorem secluded_of_isScope {n : Node} (h : n.isScope = true) : n.secluded = n.evaluated := by
  unfold secluded
  split
  · cases h
  · cases h
  · exact if_pos h

/-- What is evaluated is in the scope or secluded, but for the names that a statement binds
itself. -/
theorem mem_evaluated_cases {n m : Node} (hm : m ∈ n.evaluated) :
    m ∈ n.inScope ∨ m ∈ n.secluded ∨ m.children = [] := by
  by_cases hscope : n.isScope = true
  · rw [secluded_of_isScope hscope]
    exact .inr (.inl hm)
  have hm := mem_children_of_mem_evaluated hm
  unfold inScope
  split
  -- Functions, classes, lambdas and comprehensions are scopes of their own.
  · exact absurd rfl hscope
  · exact absurd rfl hscope
  · exact absurd rfl hscope
  · exact absurd rfl hscope
  · exact absurd rfl hscope
  -- The names of an import have no parts.
  · obtain ⟨a, -, rfl⟩ := List.mem_map.mp hm
    exact .inr (.inr rfl)
  · obtain ⟨a, -, rfl⟩ := List.mem_map.mp hm
    exact .inr (.inr rfl)
  -- Of annotated assignments, the annotation is secluded, and all is if there is no value.
  · exact .inr (.inl hm)
  · next id usage place hint value simple span =>
    simp only [children, ofStmt, ofExpr?, Option.toList_some, List.map_cons, List.map_nil,
      List.mem_cons, List.not_mem_nil, or_false] at hm
    obtain rfl | rfl | rfl := hm
    · exact .inr (.inr rfl)
    · exact .inr (.inl List.mem_cons_self)
    · exact .inl List.mem_cons_self
  · next target hint value simple span _ =>
    simp only [children, ofStmt, ofExpr?, Option.toList_some, List.map_cons, List.map_nil,
      List.mem_cons, List.not_mem_nil, or_false] at hm
    obtain rfl | rfl | rfl := hm
    · exact .inl List.mem_cons_self
    · exact .inr (.inl List.mem_cons_self)
    · exact .inl (.tail _ List.mem_cons_self)
  · exact .inl hm

/-- A walk from a node without parts goes nowhere. -/
theorem comes_evaluated_eq {n m : Node} (hn : n.children = []) (h : n.Comes evaluated m) :
    m = n := by
  obtain rfl | ⟨k, hk, -⟩ := comes_iff.mp h
  · rfl
  · have hk := mem_children_of_mem_evaluated hk
    rw [hn] at hk
    exact absurd hk List.not_mem_nil

/-- A walk to what is evaluated stays in the scope, or goes to something secluded.  The induction is
on the walk from its first step. -/
theorem comes_inScope_or_secluded {n m : Node} (hm : m.children ≠ [])
    (h : n.Comes evaluated m) :
    n.Comes inScope m ∨
      ∃ k p, n.Comes evaluated k ∧ p ∈ k.secluded ∧ p.Comes evaluated m := by
  induction h using Relation.ReflTransGen.head_induction_on with
  | refl => exact .inl .refl
  | head hstep hrest ih =>
      obtain hscope | hsecluded | hnone := mem_evaluated_cases hstep
      · obtain ih | ⟨k, p, hk, hp, hpm⟩ := ih
        · exact .inl (.head hscope ih)
        · exact .inr ⟨k, p, .head hstep hk, hp, hpm⟩
      · exact .inr ⟨_, _, .refl, hsecluded, hrest⟩
      · obtain rfl := comes_evaluated_eq hnone hrest
        exact absurd hnone hm

end Source.Node

/-- Whatever makes a name one that may be assigned again, the table says so. -/
theorem exists_mutable_of_binds {m : Module} {scope : Scope} (hscope : scopeOf m = .ok scope)
    {b : Binding} (hb : m.Binds b) (hkind : b.kind = .mutable) :
    ∃ first, scope.get? b.name = some first ∧ first.kind = .mutable := by
  have hnone := (gives_scopeOf m).mp ⟨scope, hscope⟩
  obtain rfl : tableOf m.occurrences = scope := by
    simpa [scopeOf_eq_tableOf hnone] using hscope
  have hmem : b ∈ m.occurrences := Module.mem_occurrences.mpr hb
  have hcontains : (tableOf m.occurrences).contains b.name = true :=
    contains_tableOf.mpr ⟨b, hmem, rfl⟩
  obtain ⟨first, hfirst⟩ := Option.isSome_iff_exists.mp hcontains
  exact ⟨first, hfirst, (get?_tableOf_eq_some hfirst).1.mpr ⟨b, hmem, rfl, hkind⟩⟩

/-- **Assignment expressions in the table of a module.**  The name of an assignment expression that
is evaluated in the scope of a module is in the table of the module, as one that may be assigned
again, unless the expression stands in a comprehension, in the head of a function, a class or a
lambda, or in an annotation. -/
theorem scopeOf_records_named {m : Module} {scope : Scope} (hscope : scopeOf m = .ok scope)
    {s : Stmt} (hs : s ∈ m.body) {id : String} {value : Expr} {span place : Span}
    (h : (Node.stmt s).Comes Node.evaluated (.expr (.named (.name id .store place) value span))) :
    (∃ b, scope.get? id = some b ∧ b.kind = .mutable) ∨
      ∃ n p, (Node.stmt s).Comes Node.evaluated n ∧ p ∈ n.secluded ∧
        p.Comes Node.evaluated (.expr (.named (.name id .store place) value span)) := by
  have hparts : (Node.expr (.named (.name id .store place) value span)).children ≠ [] :=
    List.cons_ne_nil _ _
  refine (Node.comes_inScope_or_secluded hparts h).imp_left fun hcomes => ?_
  have htarget : Node.expr (.name id .store place) ∈
      (Node.expr (.named (.name id .store place) value span)).inScope := List.mem_cons_self
  have hbinds : m.Binds ⟨id, .mutable, .expr (.name id .store place)⟩ :=
    ⟨s, hs, _, hcomes.tail htarget, List.mem_cons_self⟩
  exact exists_mutable_of_binds hscope hbinds rfl

/-- The name that the test of a statement binds is in the table: nothing in that statement is
secluded. -/
theorem scopeOf_records_named_size :
    let size : Expr := .named (.name "size" .store ⟨⟨1, 3⟩, ⟨1, 7⟩⟩)
      (.constant (.int 3) false ⟨⟨1, 11⟩, ⟨1, 12⟩⟩) ⟨⟨1, 3⟩, ⟨1, 12⟩⟩
    let test : Stmt := .if size [.pass ⟨⟨1, 14⟩, ⟨1, 18⟩⟩] [] ⟨⟨1, 0⟩, ⟨1, 18⟩⟩
    (Node.stmt test).Comes Node.evaluated (.expr size) ∧
      ∃ scope, scopeOf ⟨[test]⟩ = .ok scope ∧
        ∃ b, scope.get? "size" = some b ∧ b.kind = .mutable := by
  intro size test
  have hgives : Gives (scopeOf ⟨[test]⟩) := by decide +kernel
  obtain ⟨scope, hscope⟩ := hgives
  have hcomes : (Node.stmt test).Comes Node.evaluated (.expr size) := .single List.mem_cons_self
  have hnone : (Node.stmt test).Every Node.evaluated fun n => n.secluded.isEmpty = true := by
    decide +kernel
  refine ⟨hcomes, scope, hscope, ?_⟩
  obtain hrecorded | ⟨n, p, hn, hp, -⟩ :=
    scopeOf_records_named hscope (List.mem_singleton_self test) hcomes
  · exact hrecorded
  · rw [List.isEmpty_iff.mp (hnone n hn)] at hp
    exact absurd hp List.not_mem_nil

/-- The name that the element of a comprehension binds is not in the table. -/
theorem not_records_comprehension :
    let named : Expr := .named (.name "y" .store ⟨⟨1, 5⟩, ⟨1, 6⟩⟩)
      (.name "x" .load ⟨⟨1, 10⟩, ⟨1, 11⟩⟩) ⟨⟨1, 5⟩, ⟨1, 11⟩⟩
    let clause : Clause := ⟨.name "x" .store ⟨⟨1, 16⟩, ⟨1, 17⟩⟩,
      .tuple [.constant (.int 1) false ⟨⟨1, 22⟩, ⟨1, 23⟩⟩] .load ⟨⟨1, 21⟩, ⟨1, 25⟩⟩, [], false⟩
    let tree : Module := ⟨[.assign [.name "z" .store ⟨⟨1, 0⟩, ⟨1, 1⟩⟩]
      (.comprehension .list named [clause] ⟨⟨1, 4⟩, ⟨1, 26⟩⟩) ⟨⟨1, 0⟩, ⟨1, 26⟩⟩]⟩
    (∃ s ∈ tree.body, (Node.stmt s).Comes Node.evaluated (.expr named)) ∧
      ∃ scope, scopeOf tree = .ok scope ∧ scope.contains "y" = false := by
  intro named clause tree
  refine ⟨⟨_, List.mem_cons_self, ?_⟩, by decide +kernel⟩
  have hvalue : (Node.stmt (.assign [.name "z" .store ⟨⟨1, 0⟩, ⟨1, 1⟩⟩]
      (.comprehension .list named [clause] ⟨⟨1, 4⟩, ⟨1, 26⟩⟩) ⟨⟨1, 0⟩, ⟨1, 26⟩⟩)).Comes
      Node.evaluated (.expr (.comprehension .list named [clause] ⟨⟨1, 4⟩, ⟨1, 26⟩⟩)) :=
    .single (.tail _ List.mem_cons_self)
  exact hvalue.tail List.mem_cons_self

end Standin
