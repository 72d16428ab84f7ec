/-
Where the nodes of an opened module stand.

Opening makes nodes of three kinds: those of the statement that creates the registry, a final
declaration in its new form, and the text of a type that was taken out of a text.  All of these
stand where the statement stood that they replace.  Everything else in the opened module is a node
of the module, and stands where it did: a target, a value, the type that stood in brackets, with
all that is below them.

So the nodes of each opened statement can be told apart (`Traces`): those that were made, and those
that were kept.  Both together are all the nodes there are, none of them twice; and those that were
kept are nodes of the statement, in the same order, each with its place and with everything below
it (`Traces.perm`, `Traces.sublist`).

How the nodes that are made come to these places is told by the steps of the opening, in which they
have none at first (`openRecord`); step by step the outcome is the same.
-/
import Standin.Proofs.Opened
import Standin.Proofs.Placing

set_option autoImplicit false

namespace Standin

open Source

/-! ## Nodes that are made and nodes that are kept -/

/-- What is made of a statement when a module is opened, with the nodes of the outcome told apart:
`made` are new, and `kept` are nodes of the statement. -/
inductive Traces (bindings mutables : List String) :
    Stmt → Stmt → List Node → List Node → Prop where
  /-- A statement that stays: all of it is kept. -/
  | same (s : Stmt) : Traces bindings mutables s s [] (Node.stmt s).descendants
  /-- The registry in place of the marker: all of it is made. -/
  | registry (s : Stmt) :
    Traces bindings mutables s (registryStatement bindings mutables s.span)
      (Node.stmt (registryStatement bindings mutables s.span)).descendants []
  /-- A declaration that gives no type: the statement is made, its target and value are kept. -/
  | untyped (target hint value : Expr) (simple : Bool) (span : Span) :
    Traces bindings mutables (.annAssign target hint (some value) simple span)
      (.assign [target] value span)
      [.stmt (.assign [target] value span)]
      ((Node.expr target).descendants ++ (Node.expr value).descendants)
  /-- A declaration with its type in brackets: the statement is made, and the type is kept too. -/
  | typed (target qualifier inner : Expr) (usage : Usage) (place : Span) (value : Expr)
      (simple : Bool) (span : Span) :
    Traces bindings mutables
      (.annAssign target (.subscript qualifier inner usage place) (some value) simple span)
      (.annAssign target inner (some value) simple span)
      [.stmt (.annAssign target inner (some value) simple span)]
      ((Node.expr target).descendants ++ (Node.expr inner).descendants ++
        (Node.expr value).descendants)
  /-- A declaration with its type in a text: the statement is made, and so is the text. -/
  | text (target : Expr) (s : String) (marked : Bool) (place : Span) (t : String) (value : Expr)
      (simple : Bool) (span : Span) :
    Traces bindings mutables
      (.annAssign target (.constant (.text s) marked place) (some value) simple span)
      (.annAssign target (.constant (.text t) false span) (some value) simple span)
      [.stmt (.annAssign target (.constant (.text t) false span) (some value) simple span),
        .expr (.constant (.text t) false span)]
      ((Node.expr target).descendants ++ (Node.expr value).descendants)

section Descendants

variable {target hint value : Expr} {simple : Bool} {span : Span}

theorem descendants_assign :
    (Node.stmt (.assign [target] value span)).descendants =
      .stmt (.assign [target] value span) ::
        ((Node.expr target).descendants ++ (Node.expr value).descendants) := by
  rw [Node.descendants_eq]
  simp [Node.children, Node.ofStmt, Node.ofExprs]

theorem descendants_annAssign :
    (Node.stmt (.annAssign target hint (some value) simple span)).descendants =
      .stmt (.annAssign target hint (some value) simple span) ::
        ((Node.expr target).descendants ++ (Node.expr hint).descendants ++
          (Node.expr value).descendants) := by
  rw [Node.descendants_eq]
  simp [Node.children, Node.ofStmt, Node.ofExpr?]

theorem descendants_subscript {qualifier inner : Expr} {usage : Usage} :
    (Node.expr (.subscript qualifier inner usage span)).descendants =
      .expr (.subscript qualifier inner usage span) ::
        ((Node.expr qualifier).descendants ++ (Node.expr inner).descendants) := by
  rw [Node.descendants_eq]
  simp [Node.children, Node.ofExpr]

theorem descendants_constant {v : Literal} {marked : Bool} :
    (Node.expr (.constant v marked span)).descendants = [.expr (.constant v marked span)] := by
  rw [Node.descendants_eq]
  simp [Node.children, Node.ofExpr]

end Descendants

/-- All of the statement that creates the registry stands at one place. -/
theorem span_registryStatement (bindings mutables : List String) (span : Span) :
    ∀ n ∈ (Node.stmt (registryStatement bindings mutables span)).descendants,
      n.span? = some span :=
  Node.every_children_iff.mp (every_registryStatement (fun _ _ => rfl) (fun _ => rfl)
    (fun _ => rfl) (fun _ _ _ => rfl) (fun _ => rfl) (fun _ _ => rfl) (fun _ _ => rfl) _ _)

namespace Traces

variable {bindings mutables : List String} {s s' : Stmt} {made kept : List Node}

/-- Every node is made or kept, and none is counted twice. -/
theorem perm (h : Traces bindings mutables s s' made kept) :
    (Node.stmt s').descendants.Perm (made ++ kept) := by
  cases h with
  | same => exact .refl _
  | registry =>
      rw [List.append_nil]
  | untyped =>
      rw [descendants_assign]
      exact .refl _
  | typed =>
      rw [descendants_annAssign]
      exact .refl _
  | text =>
      rw [descendants_annAssign, descendants_constant, List.append_assoc]
      -- The new text comes after the target, and is counted before it.
      exact List.Perm.cons _ List.perm_middle

/-- What is kept are nodes of the statement, each with its place and all that is below it, in the
same order. -/
theorem sublist (h : Traces bindings mutables s s' made kept) :
    kept.Sublist (Node.stmt s).descendants := by
  cases h with
  | same => exact .refl _
  | registry => exact List.nil_sublist _
  | untyped target hint value simple span =>
      rw [descendants_annAssign]
      refine .cons _ ((List.Sublist.append ?_ (.refl _)))
      exact List.sublist_append_left _ _
  | typed target qualifier inner usage place value simple span =>
      rw [descendants_annAssign, descendants_subscript]
      refine .cons _ (.append (.append (.refl _) ?_) (.refl _))
      exact .cons _ (List.sublist_append_right _ _)
  | text target text marked place t value simple span =>
      rw [descendants_annAssign]
      refine .cons _ (List.Sublist.append ?_ (.refl _))
      exact List.sublist_append_left _ _

/-- What is made stands where the statement stood. -/
theorem span_of_made (h : Traces bindings mutables s s' made kept) :
    ∀ n ∈ made, n.span? = some s.span := by
  cases h with
  | same => exact fun n hn => absurd hn List.not_mem_nil
  | registry => exact span_registryStatement _ _ _
  | untyped =>
      intro n hn
      rw [List.mem_singleton.mp hn]
      rfl
  | typed =>
      intro n hn
      rw [List.mem_singleton.mp hn]
      rfl
  | text =>
      intro n hn
      simp only [List.mem_cons, List.not_mem_nil, or_false] at hn
      obtain rfl | rfl := hn
      · rfl
      · rfl

theorem span_eq (h : Traces bindings mutables s s' made kept) : s'.span = s.span := by
  cases h <;> rfl

end Traces

/-! ## Opening -/

/-- The nodes of an opened statement. -/
theorem exists_traces_of_opensTo {bindings mutables : List String} {injected : Bool} {s s' : Stmt}
    (h : OpensTo bindings mutables injected s s') :
    ∃ made kept, Traces bindings mutables s s' made kept := by
  obtain ⟨-, rfl⟩ | ⟨-, -, rfl⟩ | ⟨-, ⟨target, hint, value, simple, span, rfl, hfinal⟩, hopened⟩ :=
    opensTo_cases h
  · exact ⟨_, _, .same s'⟩
  · exact ⟨_, _, .registry s⟩
  · obtain ⟨-, rfl⟩ | ⟨qualifier, inner, usage, place, rfl, rfl⟩ | ⟨s, marked, place, t, rfl, rfl⟩ :=
      openDeclaration_of_final hopened hfinal
    · exact ⟨_, _, .untyped target hint value simple span⟩
    · exact ⟨_, _, .typed target qualifier inner usage place value simple span⟩
    · exact ⟨_, _, .text target s marked place t value simple span⟩

/-- **Where the nodes of an opened module stand.**  The tree with its places is what the steps give:
the template is read, filled and moved to the marker, a declaration that is made anew gets the place
of the old one, and what has no place then gets that of the node around it.  There are as many
statements as before, and each stands where the one with its index stood.  Of its nodes some are
made and the others are kept, as `Traces` tells.  A node that is kept is a node of the statement as
it was, with its place and everything below it; a node that is made stands where the statement
stood. -/
theorem openTree_places {tree : Module} {source : String} {o : Outcome}
    (h : openTree tree source = .ok o) :
    openRecord tree source = .ok o.tree.record ∧ o.tree.body.length = tree.body.length ∧
      ∀ (i : Nat) s, tree.body[i]? = some s →
        ∃ s' made kept, o.tree.body[i]? = some s' ∧ s'.span = s.span ∧
          Traces o.bindings o.mutables s s' made kept ∧
          (Node.stmt s').descendants.Perm (made ++ kept) ∧
          kept.Sublist (Node.stmt s).descendants ∧
          ∀ n ∈ made, n.span? = some s.span := by
  refine ⟨by rw [openRecord_eq, h, Except.map], ?_⟩
  by_cases hasks : asksToOpen source = true
  · obtain ⟨scope, body, injected, -, hbody, rfl⟩ := openTree_eq_ok hasks h
    refine ⟨(length_and_injected_of_openBody hbody).1, fun i s hs => ?_⟩
    obtain ⟨s', hs', hopens⟩ := opensTo_of_openBody hbody hs
    obtain ⟨made, kept, htraces⟩ := exists_traces_of_opensTo hopens
    exact ⟨s', made, kept, hs', htraces.span_eq, htraces, htraces.perm, htraces.sublist,
      htraces.span_of_made⟩
  · rw [openTree, if_neg hasks] at h
    cases h
    refine ⟨rfl, fun i s hs => ?_⟩
    exact ⟨s, [], (Node.stmt s).descendants, hs, rfl, .same s, .refl _, .refl _,
      fun n hn => absurd hn List.not_mem_nil⟩

/-- The text with the type of a final declaration stands where the declaration stands, which is not
where the text stood that it was taken out of. -/
theorem openTree_places_feeder :
    let tree := feederModule (.constant (.text "Final[int]") false ⟨⟨2, 8⟩, ⟨2, 20⟩⟩)
    ∃ o, openTree tree "mockingbird = None\n" = .ok o ∧
      openRecord tree "mockingbird = None\n" = .ok o.tree.record ∧
      ∀ (i : Nat) s, tree.body[i]? = some s →
        ∃ s' made kept, o.tree.body[i]? = some s' ∧ s'.span = s.span ∧
          Traces o.bindings o.mutables s s' made kept ∧
          (Node.stmt s').descendants.Perm (made ++ kept) ∧
          kept.Sublist (Node.stmt s).descendants ∧
          ∀ n ∈ made, n.span? = some s.span := by
  intro tree
  have hgives : Gives (openTree tree "mockingbird = None\n") := by decide +kernel
  obtain ⟨o, ho⟩ := hgives
  have hplaces := openTree_places ho
  exact ⟨o, ho, hplaces.1, hplaces.2.2⟩

end Standin
