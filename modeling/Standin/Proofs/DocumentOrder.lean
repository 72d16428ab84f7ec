/-
Which modules have their names in the order of the text.

A table has its names in the order of the text if the nodes recorded with them start one after
another, and no occurrence of a name starts before the one recorded for it (`Scope.InTextOrder`).
The table of a tree is entered in the order of the visit, and a tree that is read from a text is
visited in the order of the text but for what some node in it crosses.  So the names are in order
exactly if no node crosses the recorded nodes of two names, or that of a name and another
occurrence of it (`scopeOf_inTextOrder_iff`).  A conditional expression whose test binds a name, and
whose body binds another one, has them out of order (`not_inTextOrder_conditional`).
-/
import Standin.Proofs.LaidStatements
import Standin.Proofs.NameTable

set_option autoImplicit false

namespace Standin

open Source

/-! ## The nodes of a table -/

theorem Scope.nodes_bind (s : Scope) (b : Binding) :
    ((s.bind b).bindings.map (·.node)).Sublist (s.bindings.map (·.node) ++ [b.node]) := by
  unfold bind
  split_ifs
  · have hsame : (s.bindings.map fun old =>
        if old.name == b.name then { old with kind := .mutable } else old).map (·.node) =
          s.bindings.map (·.node) := by
      rw [List.map_map]
      refine List.map_congr_left fun old _ => ?_
      dsimp only [Function.comp_apply]
      split <;> rfl
    rw [hsame]
    exact List.sublist_append_left _ _
  · exact List.sublist_append_left _ _
  · rw [List.map_append]
    exact List.Sublist.refl _

/-- A table lists nodes in the order in which their bindings were entered. -/
theorem nodes_tableOf_sublist (bs : List Binding) :
    ((tableOf bs).bindings.map (·.node)).Sublist (bs.map (·.node)) := by
  induction bs using List.reverseRecOn with
  | nil => exact List.Sublist.refl _
  | append_singleton bs b ih =>
      rw [tableOf_append_singleton, List.map_append]
      exact ((tableOf bs).nodes_bind b).trans (ih.append_right _)

/-- What a table lists of a name is its first binding. -/
theorem exists_first_of_mem_tableOf {bs : List Binding} {b : Binding}
    (hb : b ∈ (tableOf bs).bindings) :
    ∃ first, bs.find? (·.name == b.name) = some first ∧ first.node = b.node := by
  have hget := Scope.get?_of_mem (nodup_tableOf bs) hb
  obtain ⟨-, first, hfirst, -, hnode, -⟩ := get?_tableOf_eq_some hget
  exact ⟨first, hfirst, hnode.symm⟩

/-- The other bindings of a name come after the one that is listed. -/
theorem sublist_of_mem_tableOf {bs : List Binding} {b o : Binding}
    (hb : b ∈ (tableOf bs).bindings) (ho : o ∈ bs) (hname : o.name = b.name) :
    b.node = o.node ∨ [b.node, o.node].Sublist (bs.map (·.node)) := by
  obtain ⟨first, hfirst, hnode⟩ := exists_first_of_mem_tableOf hb
  obtain ⟨-, before, after, rfl, hbefore⟩ := List.find?_eq_some_iff_append.mp hfirst
  rw [← hnode]
  obtain ho | ho := List.mem_append.mp ho
  · simpa [hname] using hbefore o ho
  · obtain rfl | ho := List.mem_cons.mp ho
    · exact .inl rfl
    · have hpair : [first, o].Sublist (first :: after) :=
        .cons_cons _ (List.singleton_sublist.mpr ho)
      exact .inr ((hpair.trans (List.sublist_append_right before _)).map Binding.node)

/-! ## Names in the order of the text -/

/-- That the names of a table are in the order of the text: the nodes recorded with them start one
after another, and no occurrence of a name starts before the one that is recorded. -/
structure Scope.InTextOrder (s : Scope) (m : Module) : Prop where
  successive : s.bindings.Pairwise fun b b' => b.node.start ≤ b'.node.start
  first : ∀ b ∈ s.bindings, ∀ o, m.Binds o → o.name = b.name → b.node.start ≤ o.node.start

/-- Whether the names are in order can be told from the occurrences that the visit finds. -/
instance (s : Scope) (m : Module) : Decidable (s.InTextOrder m) :=
  decidable_of_iff (s.bindings.Pairwise (fun b b' => b.node.start ≤ b'.node.start) ∧
      ∀ b ∈ s.bindings, ∀ o ∈ m.occurrences, o.name = b.name → b.node.start ≤ o.node.start)
    ⟨fun h => ⟨h.1, fun b hb o ho => h.2 b hb o (Module.mem_occurrences.mpr ho)⟩,
      fun h => ⟨h.successive, fun b hb o ho => h.first b hb o (Module.mem_occurrences.mp ho)⟩⟩

/-- That no node crosses the nodes recorded with two names, or the node recorded with a name and
another occurrence of that name. -/
structure Scope.Uncrossed (s : Scope) (m : Module) : Prop where
  successive : s.bindings.Pairwise fun b b' => ¬ m.Crosses b.node b'.node
  first : ∀ b ∈ s.bindings, ∀ o, m.Binds o → o.name = b.name → ¬ m.Crosses b.node o.node

theorem pairwise_congr {α : Type} {R S : α → α → Prop} {l : List α}
    (h : l.Pairwise fun a b => R a b ↔ S a b) : l.Pairwise R ↔ l.Pairwise S :=
  ⟨fun hR => (h.and hR).imp fun hab => hab.1.mp hab.2,
    fun hS => (h.and hS).imp fun hab => hab.1.mpr hab.2⟩

/-- **The names of a module are in the order of its text exactly if no node crosses them.** -/
theorem scopeOf_inTextOrder_iff {source : String} {tree : Module} {table : Scope}
    (hread : readModule source = .ok tree) (hscope : scopeOf tree = .ok table) :
    table.InTextOrder tree ↔ table.Uncrossed tree := by
  have horderly := orderly_of_readModule hread
  have hnone := (gives_scopeOf tree).mp ⟨table, hscope⟩
  obtain rfl : tableOf tree.occurrences = table := by
    simpa [scopeOf_eq_tableOf hnone] using hscope
  have hvisit : (tree.occurrences.map (·.node)).Pairwise fun k k' =>
      k.start ≤ k'.start ↔ ¬ tree.Crosses k k' :=
    List.pairwise_map.mpr (Module.pairwise_occurrences horderly)
  have hrows := List.pairwise_map.mp (hvisit.sublist (nodes_tableOf_sublist _))
  have hfirst : ∀ b ∈ (tableOf tree.occurrences).bindings, ∀ o, tree.Binds o → o.name = b.name →
      (b.node.start ≤ o.node.start ↔ ¬ tree.Crosses b.node o.node) := by
    intro b hb o ho hname
    have hmem := Module.mem_occurrences.mpr ho
    obtain hsame | hpair := sublist_of_mem_tableOf hb hmem hname
    · -- A node does not cross a name with itself, since what it crosses starts at two places.
      have hholds := Module.holdsName_of_mem_occurrences hmem
      rw [hsame]
      refine iff_of_true (le_refl _) fun hcross => ?_
      exact absurd (horderly.crossed hcross hholds hholds) (lt_irrefl _)
    · exact List.pairwise_iff_forall_sublist.mp hvisit hpair
  constructor
  · rintro ⟨hsuccessive, hfirst'⟩
    exact ⟨(pairwise_congr hrows).mp hsuccessive, fun b hb o ho hname =>
      (hfirst b hb o ho hname).mp (hfirst' b hb o ho hname)⟩
  · rintro ⟨hsuccessive, hfirst'⟩
    exact ⟨(pairwise_congr hrows).mpr hsuccessive, fun b hb o ho hname =>
      (hfirst b hb o ho hname).mpr (hfirst' b hb o ho hname)⟩

/-- Whether the table of a text has these names, and whether they are in its order. -/
def listsNames (source : String) (names : List String) (inOrder : Bool) : Bool :=
  (readModule source).toOption.any fun tree => (scopeOf tree).toOption.any fun table =>
    table.names [] == names && decide (table.InTextOrder tree) == inOrder

theorem exists_table_of_listsNames {source : String} {names : List String} {inOrder : Bool}
    (h : listsNames source names inOrder = true) :
    ∃ tree table, readModule source = .ok tree ∧ scopeOf tree = .ok table ∧
      table.names [] = names ∧ (table.InTextOrder tree ↔ inOrder = true) := by
  unfold listsNames at h
  cases hread : readModule source with
  | error e => simp [hread, Except.toOption] at h
  | ok tree =>
      cases hscope : scopeOf tree with
      | error e => simp [hread, hscope, Except.toOption] at h
      | ok table =>
          simp only [hread, hscope, Except.toOption, Option.any_some, Bool.and_eq_true,
            beq_iff_eq] at h
          obtain ⟨hnames, rfl⟩ := h
          exact ⟨tree, table, rfl, hscope, hnames, decide_eq_true_iff.symm⟩

/-- The key of an entry crosses the value of the entry above, also if both bind the same name. -/
example : listsNames "\x7b1: (egg := 1), (egg := 2): 3\x7d\n" ["egg"] false = true := by
  decide +kernel

/-- A conditional expression crosses nothing if its test binds no name. -/
theorem scopeOf_inTextOrder_nest :
    let source := "nest = (egg := 1) if True else (chick := 2)\n"
    ∃ tree table, readModule source = .ok tree ∧ scopeOf tree = .ok table ∧
      table.names [] = ["nest", "egg", "chick"] ∧ table.InTextOrder tree ∧
      table.Uncrossed tree := by
  intro source
  have hlists : listsNames source ["nest", "egg", "chick"] true = true := by decide +kernel
  obtain ⟨tree, table, hread, hscope, hnames, horder⟩ := exists_table_of_listsNames hlists
  have hinOrder := horder.mpr rfl
  exact ⟨tree, table, hread, hscope, hnames, hinOrder,
    (scopeOf_inTextOrder_iff hread hscope).mp hinOrder⟩

/-- The test of a conditional expression is visited before its body, which is written first. -/
theorem not_inTextOrder_conditional :
    let source := "(a := 1) if (b := 2) else 3\n"
    ∃ tree table, readModule source = .ok tree ∧ scopeOf tree = .ok table ∧
      table.names [] = ["b", "a"] ∧ ¬ table.InTextOrder tree := by
  intro source
  have hlists : listsNames source ["b", "a"] false = true := by decide +kernel
  obtain ⟨tree, table, hread, hscope, hnames, horder⟩ := exists_table_of_listsNames hlists
  exact ⟨tree, table, hread, hscope, hnames, fun hinOrder =>
    Bool.false_ne_true (horder.mp hinOrder)⟩

end Standin
