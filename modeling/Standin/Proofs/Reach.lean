/-
What the table of a module is made of.

The bindings of a module are collected on a walk over the parts of its statements that
belong to its own scope.  The walk looks at the annotation of a declared name, to see
whether it is final, and an annotation that is written as a text has to be read for that.
A text that is no expression says nothing.  But a text with a null character or with
surrogates cannot even be tried to be read, and this is the one way in which the walk ends
without a table.
-/
import Standin.Scope
import Standin.Proofs.Writable

set_option autoImplicit false

namespace Standin

open Source

/-! ## Annotations that cannot even be tried -/

/-- That an annotation cannot even be tried to be read: it is a text that holds a null character or
surrogates. -/
def Source.Expr.IsSealed : Expr → Prop
  | .constant (.text s) _ _ => '\x00' ∈ s.toList
  | .constant (.surrogates _) _ _ => True
  | _ => False

/-- A character that is no blank stays when the blanks around a text are cut off. -/
theorem mem_strip_iff {c : Char} (hc : Text.isBlank c = false) (s : String) :
    c ∈ (Text.strip s).toList ↔ c ∈ s.toList := by
  have hdrop (cs : List Char) : c ∈ cs.dropWhile Text.isBlank ↔ c ∈ cs := by
    induction cs with
    | nil => simp
    | cons d cs ih =>
        by_cases hd : Text.isBlank d
        · have hne : c ≠ d := by rintro rfl; simp [hc] at hd
          simp [hd, ih, hne]
        · simp [hd]
  simp [Text.strip, Text.stripChars, Text.stripRight, hdrop]

theorem readTokens_eq_error {α : Type} {p : Rules → Parser α} {cs : List Char} {e : ReadError}
    (h : readTokens p cs = .error e) : e = .malformed := by
  unfold readTokens at h
  split at h
  · simpa using h.symm
  · split at h
    · cases h
    · simpa using h.symm

/-- A text that cannot be read holds the null character, or is no expression. -/
theorem readHint_eq_error {s : String} {e : ReadError} (h : readHint s = .error e) :
    ('\x00' ∈ s.toList ∧ e = .nullCharacter) ∨ ('\x00' ∉ s.toList ∧ e = .malformed) := by
  rw [← mem_strip_iff (by decide) s]
  unfold readHint readExpression at h
  dsimp only at h
  split at h
  · next hnull => exact .inl ⟨by simpa using hnull, by simpa using h.symm⟩
  · next hnull => exact .inr ⟨by simpa using hnull, readTokens_eq_error h⟩

theorem readHint_eq_nullCharacter {s : String} (h : '\x00' ∈ s.toList) :
    readHint s = .error .nullCharacter := by
  rw [← mem_strip_iff (by decide) s] at h
  simp [readHint, readExpression, h]

/-- What an annotation says can be asked exactly if it is not sealed. -/
theorem gives_hintContent (hint : Expr) : Gives (hintContent hint) ↔ ¬ hint.IsSealed := by
  unfold hintContent
  split
  · next s marked span =>
    by_cases hnull : '\x00' ∈ s.toList
    · simp [readHint_eq_nullCharacter hnull, Expr.IsSealed, hnull]
    · cases hread : readHint s with
      | ok e => simp [Expr.IsSealed, hnull]
      | error e =>
          obtain ⟨h, -⟩ | ⟨-, rfl⟩ := readHint_eq_error hread
          · exact absurd h hnull
          · simp [Expr.IsSealed, hnull]
  · simp [Expr.IsSealed]
  · unfold Expr.IsSealed
    split <;> simp_all

/-- Whether an annotation is final can be asked exactly if it is not sealed. -/
theorem gives_isFinalHint (hint : Expr) : Gives (isFinalHint hint) ↔ ¬ hint.IsSealed := by
  rw [← gives_hintContent]
  simp only [isFinalHint, gives_bind]
  constructor
  · rintro ⟨content, h, -⟩
    exact ⟨content, h⟩
  · rintro ⟨content, h⟩
    exact ⟨content, h, by cases content <;> simp⟩

/-! ## The parts of a node in the scope of a module -/

namespace Source.Node

/-- The parts of a node that belong to the scope it stands in.  Functions, classes, lambdas and
comprehensions are scopes of their own, an annotation without a value binds nothing, and of a
declaration with one the annotation is left out. -/
def inScope : Node → List Node
  | .stmt (.function _ _ _ _ _ _ _) | .stmt (.classDef _ _ _ _ _ _) => []
  | .expr (.lambda _ _ _) | .expr (.comprehension _ _ _ _) | .expr (.dictComprehension _ _ _ _) =>
    []
  | .stmt (.importModules _ _) | .stmt (.importFrom _ _ _ _) => []
  | .stmt (.annAssign _ _ none _ _) => []
  | .stmt (.annAssign (.name _ _ _) _ (some value) _ _) => [.expr value]
  | .stmt (.annAssign target _ (some value) _ _) => [.expr target, .expr value]
  | n => n.children

/-- That a node is a declaration of a name whose annotation cannot even be tried. -/
def Sealed : Node → Prop
  | .stmt (.annAssign (.name _ _ _) hint (some _) _ _) => hint.IsSealed
  | _ => False

end Source.Node

/-- The bindings of one step of a visit. -/
def Visit.bindings : Visit → Except ReadError (List Binding)
  | .bind b => .ok [b]
  | .enter n => bindingsOf n

/-- The bindings of a node are those of the steps of its visit, one after the other. -/
theorem bindingsOf_eq (n : Node) :
    bindingsOf n = (do
      let vs ← visits n
      return (← vs.mapM Visit.bindings).flatten) := by
  have hattach (vs : List Visit) :
      vs.mapM Visit.bindings = vs.attach.mapM fun v => v.1.bindings := by
    conv => lhs; rw [← List.attach_map_subtype_val vs, List.mapM_map]
    rfl
  rw [bindingsOf]
  split
  · next e h => simp [h, bind, Except.bind]
  · next vs h =>
    simp only [h, bind, Except.bind, hattach vs]
    congr 1
    congr 1
    funext entry
    obtain ⟨v, hv⟩ := entry
    cases v <;> rfl

/-! ## When a module has a table -/

/-- The node that a step of a visit enters. -/
def Visit.entered? : Visit → Option Node
  | .bind _ => none
  | .enter n => some n

@[simp] theorem entered_bind (b : Binding) : (Visit.bind b).entered? = none := rfl

@[simp] theorem entered_enter (n : Node) : (Visit.enter n).entered? = some n := rfl

@[simp] theorem filterMap_entered_enterAll (n : Node) :
    (enterAll n).filterMap Visit.entered? = n.children := by
  have hid : Visit.entered? ∘ Visit.enter = some := funext entered_enter
  simp [enterAll, List.filterMap_map, hid]

@[simp] theorem filterMap_entered_bindMutable (name : Option String) (n : Node) :
    (bindMutable name n).filterMap Visit.entered? = [] := by
  cases name <;> rfl

/-- What is done at a node: at a sealed declaration nothing, and else the parts in the scope are
entered, in order. -/
theorem visits_cases (n : Node) :
    (n.Sealed ∧ ¬ Gives (visits n)) ∨
      (¬ n.Sealed ∧ ∃ vs, visits n = .ok vs ∧ vs.filterMap Visit.entered? = n.inScope) := by
  cases n with
  | stmt s =>
      cases s
      case annAssign target hint value simple span =>
        cases value with
        | none => exact .inr ⟨by simp [Node.Sealed], _, rfl, rfl⟩
        | some value =>
            cases target
            case name id usage place =>
              -- This is the only node at which something is asked that may have no answer.
              have hasked := gives_isFinalHint hint
              cases hfinal : isFinalHint hint <;>
                simp_all [Node.Sealed, visits, Node.inScope, List.filterMap_cons]
            all_goals exact .inr ⟨not_false, _, rfl, rfl⟩
      all_goals
        refine .inr ⟨not_false, _, rfl, ?_⟩
        first
        | exact filterMap_entered_enterAll _
        | simp [Node.inScope, Function.comp_def]
  | expr e =>
      cases e
      case name id usage span =>
        cases usage <;> exact .inr ⟨not_false, _, rfl, rfl⟩
      all_goals
        refine .inr ⟨not_false, _, rfl, ?_⟩
        first
        | exact filterMap_entered_enterAll _
        | rfl
  | pattern p =>
      cases p <;> refine .inr ⟨not_false, _, rfl, ?_⟩ <;>
        simp [Node.inScope, Node.children, Node.ofPattern]
  | _ => exact .inr ⟨not_false, _, rfl, filterMap_entered_enterAll _⟩

theorem mem_children_of_mem_inScope {n m : Node} (hm : m ∈ n.inScope) : m ∈ n.children := by
  obtain ⟨hs, h⟩ | ⟨hs, vs, h, hvs⟩ := visits_cases n
  · unfold Node.Sealed at hs
    split at hs <;> simp_all [Node.inScope, Node.children, Node.ofStmt, Node.ofExpr?]
  · rw [← hvs, List.mem_filterMap] at hm
    obtain ⟨v, hv, hmv⟩ := hm
    cases v with
    | bind b => cases hmv
    | enter k =>
        cases hmv
        exact mem_children_of_mem_visits h hv

/-- The bindings of a node can be told exactly if no declaration in the scope is sealed. -/
theorem gives_bindingsOf (n : Node) :
    Gives (bindingsOf n) ↔ n.Every Node.inScope (¬ ·.Sealed) := by
  induction n using Node.induction with
  | _ n ih =>
    -- Binding a name always goes through, so that all depends on the parts that are entered.
    have hvisit {vs : List Visit} (hvs : vs.filterMap Visit.entered? = n.inScope) :
        (∀ v ∈ vs, Gives v.bindings) ↔
          ∀ m ∈ n.inScope, m.Every Node.inScope (¬ ·.Sealed) := by
      rw [← hvs, forall_mem_filterMap]
      refine forall₂_congr fun v hv => ?_
      cases v with
      | bind b => simp [Visit.bindings]
      | enter m =>
          have hm : m ∈ n.inScope := by
            rw [← hvs, List.mem_filterMap]
            exact ⟨_, hv, rfl⟩
          simp [Visit.bindings, ih m (mem_children_of_mem_inScope hm)]
    rw [Node.every_iff, bindingsOf_eq]
    obtain ⟨hs, h⟩ | ⟨hs, vs, h, hvs⟩ := visits_cases n
    · have hnone : ∀ vs, visits n ≠ .ok vs := fun vs hvs => h ⟨vs, hvs⟩
      simp [gives_bind, hnone, hs]
    · simp [gives_bind, gives_mapM, h, hs, hvisit hvs]

/-- **A module has a table exactly if no declaration in its scope is sealed.** -/
theorem gives_scopeOf (m : Module) :
    Gives (scopeOf m) ↔ ∀ s ∈ m.body, (Node.stmt s).Every Node.inScope (¬ ·.Sealed) := by
  simp [scopeOf, gives_mapM, gives_bindingsOf]

end Standin
