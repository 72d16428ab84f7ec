/-
Walks over a tree.

A walk goes from a node to some of its parts, and from these on.  Which parts those are
is the walk's own choice: all of them, those that are written, those that belong to the
scope of a module.  What holds everywhere on a walk is said once here, and taken apart
node by node.
-/
import Standin.Source.Node
import Mathlib.Logic.Relation

set_option autoImplicit false

namespace Standin.Source.Node

variable {parts : Node → List Node} {P Q : Node → Prop} {n m : Node}

/-- That a walk that goes to these parts of each node comes from one node to another. -/
def Comes (parts : Node → List Node) : Node → Node → Prop :=
  Relation.ReflTransGen fun n m => m ∈ parts n

/-- That something holds of all nodes that a walk comes to. -/
def Every (parts : Node → List Node) (P : Node → Prop) (n : Node) : Prop :=
  ∀ m, n.Comes parts m → P m

/-- A walk ends at once, or goes on from a part. -/
theorem comes_iff : n.Comes parts m ↔ m = n ∨ ∃ k ∈ parts n, k.Comes parts m :=
  Relation.ReflTransGen.cases_head_iff.trans (or_congr_left eq_comm)

/-- What holds on a walk holds of its first node, and on the walks from the parts of that. -/
theorem every_iff : n.Every parts P ↔ P n ∧ ∀ m ∈ parts n, m.Every parts P := by
  constructor
  · intro h
    refine ⟨h n .refl, fun m hm k hk => h k ?_⟩
    exact comes_iff.mpr (.inr ⟨m, hm, hk⟩)
  · rintro ⟨hn, hparts⟩ k hk
    obtain rfl | ⟨m, hm, hmk⟩ := comes_iff.mp hk
    · exact hn
    · exact hparts m hm k hmk

theorem Every.self (h : n.Every parts P) : P n := (every_iff.mp h).1

theorem Every.part (h : n.Every parts P) (hm : m ∈ parts n) : m.Every parts P :=
  (every_iff.mp h).2 m hm

theorem Every.imp (h : n.Every parts P) (hPQ : ∀ m, P m → Q m) : n.Every parts Q :=
  fun m hm => hPQ m (h m hm)

/-- What holds on a walk holds on one that goes to fewer parts. -/
theorem Every.narrow {fewer : Node → List Node} (h : n.Every parts P)
    (hfewer : ∀ n, fewer n ⊆ parts n) : n.Every fewer P :=
  fun m hm => h m (Relation.ReflTransGen.mono (fun n _ hk => hfewer n hk) _ _ hm)

/-! ## Walks to smaller parts -/

theorem every_iff_reached (hparts : ∀ n, ∀ m ∈ parts n, sizeOf m < sizeOf n) :
    n.Every parts P ↔ ∀ m ∈ reached parts hparts n, P m := by
  induction n using reached.induct parts hparts with
  | case1 n ih =>
      rw [every_iff, reached, List.forall_mem_cons]
      refine and_congr_right fun _ => ?_
      simp only [List.mem_flatMap, List.mem_attach, true_and, Subtype.exists]
      constructor
      · rintro h k ⟨m, hm, hk⟩
        exact (ih m hm).mp (h m hm) k hk
      · intro h m hm
        exact (ih m hm).mpr fun k hk => h k ⟨m, hm, hk⟩

/-! ## Walks over all that is below a node -/

theorem descendants_eq (n : Node) : n.descendants = n :: n.children.flatMap descendants := by
  have hattach : n.children.attach.flatMap (fun m => m.1.descendants) =
      n.children.flatMap descendants := by
    conv => rhs; rw [← List.attach_map_subtype_val n.children, List.flatMap_map]
  rw [descendants, ← hattach]

/-- What is below a node is what a walk to all parts comes to. -/
theorem every_children_iff : n.Every children P ↔ ∀ m ∈ n.descendants, P m := by
  induction n using descendants.induct with
  | case1 n ih =>
      rw [every_iff, descendants_eq, List.forall_mem_cons, List.forall_mem_flatMap]
      exact and_congr_right fun _ => forall₂_congr ih

instance [DecidablePred P] (n : Node) : Decidable (n.Every children P) :=
  decidable_of_iff _ every_children_iff.symm

/-- What holds of a node without parts holds on any walk from it. -/
theorem every_of_no_children (hn : P n) (hnone : n.children = []) : n.Every children P := by
  refine every_iff.mpr ⟨hn, fun m hm => ?_⟩
  rw [hnone] at hm
  exact absurd hm List.not_mem_nil

end Standin.Source.Node
