/-
Slices in opened modules.

A slice is no expression of its own.  It stands in the brackets of a subscript, alone or in a
tuple, and nowhere else (`Module.Bracketed`); a text in which it stood anywhere else could not be
read.

The type of a final declaration stands in brackets as well, and opening takes it out of these,
whatever it is.  That it can stand without brackets is the one thing that opening asks of a module
so that slices stay where they may stand (`openTree_bracketed_iff`).  Types can, but nothing keeps a
module from having a slice in place of a type.
-/
import Standin.Proofs.Places

set_option autoImplicit false

namespace Standin

open Source

namespace Source

/-- Whether an expression is a slice. -/
def Expr.isSlice : Expr → Bool
  | .slice .. => true
  | _ => false

/-- Whether an expression can stand in brackets only: a slice, and a tuple with slices in it. -/
def Expr.isIndex : Expr → Bool
  | .tuple es _ _ => es.any isSlice
  | e => e.isSlice

namespace Node

/-- Whether a node can stand in brackets only. -/
def isIndex : Node → Bool
  | .expr e => e.isIndex
  | _ => false

/-- The parts of a node that do not stand in brackets.  Slices in a tuple stand where the tuple
does, and it is the tuple that is asked for its place. -/
def unbracketed : Node → List Node
  | .expr (.subscript e _ _ _) => [.expr e]
  | .expr (.tuple es _ _) => ofExprs (es.filter (!·.isSlice))
  | n => n.children

/-- That what can stand in brackets only does so, among the parts of a node. -/
def BracketsSlices (n : Node) : Prop := ∀ m ∈ n.unbracketed, m.isIndex = false

instance : DecidablePred BracketsSlices := fun n =>
  inferInstanceAs (Decidable (∀ m ∈ n.unbracketed, m.isIndex = false))

end Node

/-- That all slices of a module stand in brackets: each is the index of a subscript, or an element
of a tuple that is one. -/
def Module.Bracketed (m : Module) : Prop :=
  ∀ s ∈ m.body, (Node.stmt s).Every Node.children Node.BracketsSlices

instance : DecidablePred Module.Bracketed := fun m =>
  inferInstanceAs (Decidable (∀ s ∈ m.body, (Node.stmt s).Every Node.children Node.BracketsSlices))

/-- That an expression can stand without brackets, with all slices in it in brackets. -/
structure Expr.StandsFree (e : Expr) : Prop where
  not_index : e.isIndex = false
  every : (Node.expr e).Every Node.children Node.BracketsSlices

/-- Whether a statement is a final declaration, and what it has in brackets can stand in brackets
only. -/
def Stmt.freesIndex : Stmt → Bool
  | .annAssign target (.subscript qualifier inner _ _) (some _) _ _ =>
    !isMarkerName target && isFinalName qualifier && inner.isIndex
  | _ => false

end Source

theorem mem_children_of_mem_unbracketed {n m : Node} (hm : m ∈ n.unbracketed) : m ∈ n.children := by
  unfold Node.unbracketed at hm
  split at hm
  · simp_all [Node.children, Node.ofExpr]
  · next es usage span =>
    obtain ⟨e, he, rfl⟩ := List.mem_map.mp hm
    exact List.mem_map.mpr ⟨e, (List.mem_filter.mp he).1, rfl⟩
  · exact hm

/-- Where there are no slices, none is out of place. -/
theorem bracketsSlices_of_no_index {n : Node}
    (h : n.Every Node.children fun m => m.isIndex = false) :
    n.Every Node.children Node.BracketsSlices := by
  intro m hm k hk
  exact h k (hm.tail (mem_children_of_mem_unbracketed hk))

/-! ## Declarations -/

section Declarations

variable {target hint value : Expr} {simple : Bool} {span : Span}

theorem every_assign_iff :
    (Node.stmt (.assign [target] value span)).Every Node.children Node.BracketsSlices ↔
      target.StandsFree ∧ value.StandsFree := by
  rw [Node.every_iff]
  simp only [Node.BracketsSlices, Node.unbracketed, Node.children, Node.ofStmt, Node.ofExprs,
    List.map_cons, List.map_nil, List.cons_append, List.nil_append, List.forall_mem_cons,
    List.not_mem_nil, false_imp_iff, implies_true, and_true, Node.isIndex]
  constructor
  · rintro ⟨⟨htarget, hvalue⟩, htarget', hvalue'⟩
    exact ⟨⟨htarget, htarget'⟩, ⟨hvalue, hvalue'⟩⟩
  · rintro ⟨htarget, hvalue⟩
    exact ⟨⟨htarget.not_index, hvalue.not_index⟩, htarget.every, hvalue.every⟩

theorem every_annAssign_iff :
    (Node.stmt (.annAssign target hint (some value) simple span)).Every Node.children
        Node.BracketsSlices ↔
      target.StandsFree ∧ hint.StandsFree ∧ value.StandsFree := by
  rw [Node.every_iff]
  simp only [Node.BracketsSlices, Node.unbracketed, Node.children, Node.ofStmt, Node.ofExpr?,
    Option.toList_some, List.map_cons, List.map_nil, List.forall_mem_cons, List.not_mem_nil,
    false_imp_iff, implies_true, and_true, Node.isIndex]
  constructor
  · rintro ⟨⟨htarget, hhint, hvalue⟩, htarget', hhint', hvalue'⟩
    exact ⟨⟨htarget, htarget'⟩, ⟨hhint, hhint'⟩, ⟨hvalue, hvalue'⟩⟩
  · rintro ⟨htarget, hhint, hvalue⟩
    exact ⟨⟨htarget.not_index, hhint.not_index, hvalue.not_index⟩, htarget.every, hhint.every,
      hvalue.every⟩

theorem standsFree_constant (v : Literal) (marked : Bool) :
    (Expr.constant v marked span).StandsFree := by
  refine ⟨rfl, Node.every_of_no_children (fun m hm => ?_) rfl⟩
  exact absurd hm List.not_mem_nil

/-- What stands in brackets may be an index, but all in it stands as it has to. -/
theorem standsFree_inBrackets_iff {qualifier inner : Expr} {usage : Usage} {place : Span}
    (h : (Expr.subscript qualifier inner usage place).StandsFree) :
    inner.StandsFree ↔ inner.isIndex = false := by
  have hinner : (Node.expr inner).Every Node.children Node.BracketsSlices :=
    h.every.part (by simp [Node.children, Node.ofExpr])
  exact ⟨Expr.StandsFree.not_index, fun hindex => ⟨hindex, hinner⟩⟩

end Declarations

/-! ## Opening -/

/-- A statement whose brackets are lost on an index is a final declaration. -/
theorem declaresFinal_of_freesIndex {s : Stmt} (h : s.freesIndex = true) :
    declaresMarker s = false ∧ s.DeclaresFinal := by
  unfold Stmt.freesIndex at h
  split at h
  · next target qualifier inner usage place value simple span =>
    simp only [Bool.and_eq_true, Bool.not_eq_true'] at h
    obtain ⟨⟨htarget, hqualifier⟩, -⟩ := h
    refine ⟨htarget, _, _, _, _, _, rfl, ?_⟩
    simpa [isFinalHint, hintContent, isFinalForm, bind, Except.bind, pure, Except.pure]
      using hqualifier
  · cases h

/-- Slices of a final declaration stay in brackets, unless the declaration frees an index. -/
theorem bracketsSlices_of_openDeclaration {target hint value : Expr} {simple : Bool} {span : Span}
    {s' : Stmt} (htarget : isMarkerName target = false) (hfinal : isFinalHint hint = .ok true)
    (h : openDeclaration (.annAssign target hint (some value) simple span) = .ok s')
    (hs : (Node.stmt (.annAssign target hint (some value) simple span)).Every Node.children
      Node.BracketsSlices) :
    (Node.stmt s').Every Node.children Node.BracketsSlices ↔
      Stmt.freesIndex (.annAssign target hint (some value) simple span) = false := by
  obtain ⟨hTarget, hHint, hValue⟩ := every_annAssign_iff.mp hs
  obtain ⟨hnone, rfl⟩ | ⟨qualifier, inner, usage, place, rfl, rfl⟩ | ⟨_, _, _, text, rfl, rfl⟩ :=
    openDeclaration_of_final h hfinal
  · have hfrees : Stmt.freesIndex (.annAssign target hint (some value) simple span) = false := by
      cases hint <;> first | rfl | cases hnone
    exact iff_of_true (every_assign_iff.mpr ⟨hTarget, hValue⟩) hfrees
  · have hqualifier : isFinalName qualifier = true :=
      isFinalForm_of_isFinalHint hfinal fun _ _ _ heq => Expr.noConfusion heq
    -- The target and the value are as they were: all turns on what stood in the brackets.
    have hfrees : Stmt.freesIndex (.annAssign target (.subscript qualifier inner usage place)
        (some value) simple span) = inner.isIndex := by
      simp [Stmt.freesIndex, htarget, hqualifier]
    rw [every_annAssign_iff, standsFree_inBrackets_iff hHint, hfrees]
    exact ⟨fun h => h.2.1, fun h => ⟨hTarget, h, hValue⟩⟩
  · exact iff_of_true (every_annAssign_iff.mpr ⟨hTarget, standsFree_constant _ _, hValue⟩) rfl

/-- Slices of a statement stay in brackets, unless it frees an index. -/
theorem bracketsSlices_of_opensTo {bindings mutables : List String} {injected : Bool} {s s' : Stmt}
    (h : OpensTo bindings mutables injected s s')
    (hs : (Node.stmt s).Every Node.children Node.BracketsSlices) :
    (Node.stmt s').Every Node.children Node.BracketsSlices ↔ s.freesIndex = false := by
  have hkept (hnot : ¬ (declaresMarker s = false ∧ s.DeclaresFinal)) : s.freesIndex = false :=
    Bool.eq_false_iff.mpr fun hfrees => hnot (declaresFinal_of_freesIndex hfrees)
  obtain ⟨hnot, rfl⟩ | ⟨-, hmarker, rfl⟩ |
    ⟨hmarker, ⟨target, hint, value, simple, span, rfl, hfinal⟩, hopened⟩ := opensTo_cases h
  · exact iff_of_true hs (hkept fun hc => hnot hc.1 hc.2)
  · refine iff_of_true ?_ (hkept fun hc => by simp [hmarker] at hc)
    -- Nothing in the statement that creates the registry is a slice or a tuple.
    exact bracketsSlices_of_no_index (every_registryStatement (fun _ _ => rfl)
      (fun _ => rfl) (fun _ => rfl) (fun _ _ _ => rfl) (fun _ => rfl) (fun _ _ => rfl)
      (fun _ _ => rfl) _ _)
  · exact bracketsSlices_of_openDeclaration hmarker hfinal hopened hs

/-- **When slices stay in brackets.**  If all slices of a module stand in brackets, then so they do
in the opened module, unless it has a final declaration with a slice in place of its type, or with
a tuple of slices; there they stand in an annotation, outside of all brackets. -/
theorem openTree_bracketed_iff {tree : Module} {source : String} {o : Outcome}
    (htree : tree.Bracketed) (h : openTree tree source = .ok o) :
    o.tree.Bracketed ↔ (asksToOpen source = true → ∀ s ∈ tree.body, s.freesIndex = false) := by
  by_cases hasks : asksToOpen source = true
  · obtain ⟨scope, body, injected, -, hbody, rfl⟩ := openTree_eq_ok hasks h
    simp only [hasks, forall_const]
    constructor
    · intro hopened s hs
      obtain ⟨_, s', hs', hopens⟩ := exists_mem_opened hbody hs
      exact (bracketsSlices_of_opensTo hopens (htree s hs)).mp (hopened s' hs')
    · intro hfrees s' hs'
      obtain ⟨_, s, hs, hopens⟩ := exists_mem_of_mem_opened hbody hs'
      exact (bracketsSlices_of_opensTo hopens (htree s hs)).mpr (hfrees s hs)
  · rw [openTree, if_neg hasks] at h
    cases h
    exact iff_of_true htree fun h => absurd h hasks

/-- A type in brackets can stand without these, so that a module with it keeps its slices where they
stood. -/
theorem openTree_bracketed_feeder :
    let tree := feederModule (.subscript (.name "Final" .load ⟨⟨2, 8⟩, ⟨2, 13⟩⟩)
      (.name "int" .load ⟨⟨2, 14⟩, ⟨2, 17⟩⟩) .load ⟨⟨2, 8⟩, ⟨2, 18⟩⟩)
    tree.Bracketed ∧ ∃ o, openTree tree "mockingbird = None\n" = .ok o ∧ o.tree.Bracketed := by
  intro tree
  have htree : tree.Bracketed := by decide +kernel
  have hgives : Gives (openTree tree "mockingbird = None\n") := by decide +kernel
  obtain ⟨o, ho⟩ := hgives
  have hfrees : ∀ s ∈ tree.body, s.freesIndex = false := by decide
  exact ⟨htree, o, ho, (openTree_bracketed_iff htree ho).mpr fun _ => hfrees⟩

/-- A slice in place of a type is out of its brackets in the opened module: the text of the
declaration cannot be read any more. -/
theorem not_bracketed_openTree :
    let source := "mockingbird = None\nX: Final[1:2] = 1\n"
    ∃ tree, readModule source = .ok tree ∧ tree.Bracketed ∧
      ∃ o, openTree tree source = .ok o ∧ ¬ o.tree.Bracketed ∧
        ∃ text, (⟨o.tree.body.tail⟩ : Source.Module).text = .ok text ∧
          ¬ Gives (readModule text) := by
  decide +kernel

end Standin
