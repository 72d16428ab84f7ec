/-
The rows of a table, from the bindings that were entered.

A table has one row for each name (`Scope.nodup_bind` for a step, `nodup_tableOf` for a run), and so
a row is what a look-up of its name gives (`Scope.get?_of_mem`).  What a look-up gives was said of
the bindings already: the first one of the name, but as one that may be assigned again if any of them
makes it so (`get?_tableOf`).  The two together give the table whole, rows and order: a row for each
name in the order of first bindings (`tableOf_rows`).

Which names may be assigned again does not depend on the order of the bindings, though everything
else in the table does: the rows, and what they say of a name that no binding makes mutable.
-/
import Standin.Proofs.Occurrences
import Mathlib.Data.List.Nodup

set_option autoImplicit false

namespace Standin

open Source

/-! ## One row for each name -/

namespace Scope

variable {s : Scope} {b : Binding}

/-- A name that is bound once more gets no second row. -/
theorem nodup_bind (h : s.allNames.Nodup) (b : Binding) : (s.bind b).allNames.Nodup := by
  rw [allNames_bind]
  split
  · exact h
  · next hnew =>
    refine List.nodup_append.mpr ⟨h, List.nodup_singleton _, ?_⟩
    rintro name hname _ hmem rfl
    rw [List.mem_singleton] at hmem
    exact hnew (hmem ▸ hname)

/-- A row is what is found of its name. -/
theorem get?_of_mem (h : s.allNames.Nodup) (hb : b ∈ s.bindings) : s.get? b.name = some b := by
  have hbound : (s.get? b.name).isSome = true :=
    List.find?_isSome.mpr ⟨b, hb, beq_self_eq_true _⟩
  obtain ⟨found, hfound⟩ := Option.isSome_iff_exists.mp hbound
  have hmem : found ∈ s.bindings := List.mem_of_find?_eq_some hfound
  rw [hfound, List.inj_on_of_nodup_map h hmem hb (name_of_get? hfound)]

/-- The rows are what is found of the names, in their order. -/
theorem bindings_eq_filterMap (h : s.allNames.Nodup) :
    s.bindings = s.allNames.filterMap s.get? := by
  calc s.bindings = s.bindings.filterMap some := List.filterMap_some.symm
    _ = s.bindings.filterMap (s.get? ·.name) :=
      List.filterMap_congr fun b hb => (get?_of_mem h hb).symm
    _ = s.allNames.filterMap s.get? := by
      rw [allNames, List.filterMap_map]
      rfl

/-- The names that may be assigned again are in the order of all names. -/
theorem mutables_sublist (s : Scope) (exclude : List String) :
    (s.mutables exclude).Sublist (s.names exclude) :=
  (List.filter_sublist.map _).filter _

/-- If it can be told from the name whether a row is mutable, then the names are picked by that. -/
theorem mutables_eq_filter {p : String → Bool}
    (hp : ∀ b ∈ s.bindings, (b.kind == .mutable) = p b.name) (exclude : List String) :
    s.mutables exclude = (s.names exclude).filter p := by
  have hrows : s.bindings.filter (·.kind == .mutable) = s.bindings.filter (p ∘ (·.name)) :=
    List.filter_congr hp
  rw [mutables, names, hrows, ← List.filter_map, List.filter_filter, List.filter_filter]
  exact List.filter_congr fun name _ => Bool.and_comm _ _

end Scope

theorem nodup_tableOf (bs : List Binding) : (tableOf bs).allNames.Nodup := by
  induction bs using List.reverseRecOn with
  | nil => exact List.nodup_nil
  | append_singleton bs b ih =>
      rw [tableOf_append_singleton]
      exact Scope.nodup_bind ih b

/-! ## The table of a sequence of bindings -/

/-- A name is found as one that may be assigned again exactly if some binding makes it so. -/
theorem kind_tableOf_iff {bs : List Binding} {name : String} :
    ((tableOf bs).get? name).map (·.kind) = some .mutable ↔
      (bs.any fun b => b.name == name && b.kind == .mutable) = true := by
  rw [← makesMutable_iff_any]
  cases hget : (tableOf bs).get? name with
  | some b => simpa using (get?_tableOf_eq_some hget).1
  | none =>
      -- A name without a row has no binding at all.
      refine iff_of_false (by simp) ?_
      rintro ⟨b, hb, rfl, -⟩
      have hbound : (tableOf bs).contains b.name = true := contains_tableOf.mpr ⟨b, hb, rfl⟩
      rw [Scope.contains, hget] at hbound
      cases hbound

/-- **The table of a sequence of bindings**, entered one after another in the empty table.  It has a
row for each name, in the order of first bindings: the first binding of the name, but as one that may
be assigned again if some binding of it makes it so.  Whether a name may be assigned again does not
depend on the order of the bindings, and the names that may be are just those of all names that have
a binding that makes them so. -/
theorem tableOf_rows (bs : List Binding) :
    (tableOf bs).bindings = (bs.map (·.name)).eraseDups.filterMap (bindingIn bs) ∧
      (∀ name, (tableOf bs).get? name = bindingIn bs name) ∧
      (∀ exclude, (tableOf bs).names exclude =
        (bs.map (·.name)).eraseDups.filter (!exclude.contains ·)) ∧
      (∀ exclude, (tableOf bs).mutables exclude = ((tableOf bs).names exclude).filter fun name =>
        bs.any fun b => b.name == name && b.kind == .mutable) ∧
      ∀ bs', bs.Perm bs' → ∀ name,
        (((tableOf bs').get? name).map (·.kind) = some .mutable ↔
          ((tableOf bs).get? name).map (·.kind) = some .mutable) := by
  have hnodup := nodup_tableOf bs
  refine ⟨?rows, get?_tableOf bs, fun exclude => ?names, fun exclude => ?mutables,
    fun bs' hperm name => ?order⟩
  case rows =>
    have hfound : (tableOf bs).get? = bindingIn bs := funext (get?_tableOf bs)
    rw [Scope.bindings_eq_filterMap hnodup, allNames_tableOf, hfound]
  case names => rw [Scope.names_eq, allNames_tableOf]
  case mutables =>
    refine Scope.mutables_eq_filter (fun b hb => ?_) exclude
    rw [Bool.eq_iff_iff, ← kind_tableOf_iff, Scope.get?_of_mem hnodup hb]
    simp
  case order =>
    rw [kind_tableOf_iff, kind_tableOf_iff]
    simp only [List.any_eq_true, hperm.mem_iff]

/-- A function that is assigned to may be assigned again, whichever of the two comes first. -/
theorem tableOf_rows_fetch :
    let node : Node := .stmt (.pass ⟨⟨1, 0⟩, ⟨1, 4⟩⟩)
    let bs : List Binding :=
      [⟨"fetch", .function, node⟩, ⟨"fetch", .mutable, node⟩, ⟨"nest", .imported, node⟩]
    bs.Perm bs.reverse ∧ (tableOf bs).names [] = ["fetch", "nest"] ∧
      (tableOf bs.reverse).names [] = ["nest", "fetch"] ∧
      ((tableOf bs).get? "fetch").map (·.kind) = some .mutable ∧
      ((tableOf bs.reverse).get? "fetch").map (·.kind) = some .mutable := by
  intro node bs
  have hperm : bs.Perm bs.reverse := (List.reverse_perm bs).symm
  have hkind : ((tableOf bs).get? "fetch").map (·.kind) = some .mutable := by decide
  obtain ⟨-, -, -, -, horder⟩ := tableOf_rows bs
  exact ⟨hperm, by decide, by decide, hkind,
    (horder bs.reverse hperm "fetch").mpr hkind⟩

end Standin
