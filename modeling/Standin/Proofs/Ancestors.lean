/-
The packages around a module.

The name of a module is cut at its last dot; what stands before that is looked up and cut again, until
nothing is left.  A text that a dot follows in the name is either what stands before the last dot, or
a dot follows it in that (`dotted_iff`).  So the cuts come by all such texts but the empty one, and as
each is shorter than the one before, they come by each of them once (`mem_ancestors_iff`,
`pairwise_ancestors`).  It does not matter where the dots are: a name may begin or end with dots, or
have several in a row.

The search for the loaded packages is also given round by round (`World.Finds`), so that it ends is
something to be proved (`finds_ancestors`), and not only read off from how the names are listed.
-/
import Standin.Registry
import Mathlib.Data.List.TakeWhile

set_option autoImplicit false

namespace Standin.Package

/-! ## Cutting at the last dot -/

/-- Read from its end, a text without a dot is passed over as a whole. -/
theorem forall_bne_dot_of_not_mem {cs : List Char} (h : '.' ∉ cs) :
    ∀ c ∈ cs.reverse, (c != '.') = true := by
  intro c hc
  rw [bne_iff_ne]
  rintro rfl
  exact h (List.mem_reverse.mp hc)

theorem beforeLastDot_of_not_mem {cs : List Char} (h : '.' ∉ cs) : beforeLastDot cs = [] := by
  rw [beforeLastDot, List.dropWhile_eq_nil_iff.mpr (forall_bne_dot_of_not_mem h)]
  rfl

theorem beforeLastDot_append {front last : List Char} (h : '.' ∉ last) :
    beforeLastDot (front ++ '.' :: last) = front := by
  have hreverse : (front ++ '.' :: last).reverse = last.reverse ++ '.' :: front.reverse := by simp
  rw [beforeLastDot, hreverse, List.dropWhile_append_of_pos (forall_bne_dot_of_not_mem h)]
  simp

/-- A text has no dot, or it can be cut at its last one. -/
theorem not_mem_or_exists_last_dot (cs : List Char) :
    '.' ∉ cs ∨ ∃ front last, cs = front ++ '.' :: last ∧ '.' ∉ last := by
  by_cases h : '.' ∈ cs
  · obtain ⟨before, after, heq, hbefore⟩ := List.eq_append_cons_of_mem (List.mem_reverse.mpr h)
    refine .inr ⟨after.reverse, before.reverse, ?_, by simpa using hbefore⟩
    rw [← List.reverse_reverse cs, heq]
    simp
  · exact .inl h

/-- A text that a dot follows is what stands before the last dot, or a dot follows it in that. -/
theorem dotted_iff {p front last : List Char} (h : '.' ∉ last) :
    p ++ ['.'] <+: front ++ '.' :: last ↔ p = front ∨ p ++ ['.'] <+: front := by
  constructor
  · rintro ⟨rest, heq⟩
    rw [List.append_assoc, List.singleton_append, List.append_eq_append_iff] at heq
    obtain ⟨between, rfl, hrest⟩ | ⟨between, rfl, hlast⟩ := heq
    · cases between with
      | nil => exact .inl (List.append_nil p).symm
      | cons c between =>
          obtain ⟨rfl, -⟩ := List.cons.inj hrest
          exact .inr ⟨between, by simp⟩
    · cases between with
      | nil => exact .inl (List.append_nil front)
      | cons c between =>
          -- The dot would come after the last one.
          obtain ⟨-, rfl⟩ := List.cons.inj hlast
          exact absurd (by simp) h
  · rintro (rfl | hfront)
    · exact ⟨last, by simp⟩
    · exact hfront.trans (List.prefix_append _ _)

/-! ## The names that the cuts come by -/

theorem mem_ancestorChars_iff {p cs : List Char} :
    p ∈ ancestorChars cs ↔ p ≠ [] ∧ p ++ ['.'] <+: cs := by
  -- The induction is on the cuts.
  induction cs using ancestorChars.induct with
  | case1 cs hnone =>
      -- Nothing stands before the last dot, and so before no dot at all.
      rw [ancestorChars, dif_pos hnone]
      refine iff_of_false List.not_mem_nil ?_
      rintro ⟨hp, hdotted⟩
      obtain hno | ⟨front, last, rfl, hlast⟩ := not_mem_or_exists_last_dot cs
      · exact hno (hdotted.subset (by simp))
      · rw [beforeLastDot_append hlast] at hnone
        subst hnone
        obtain rfl | hfront := (dotted_iff hlast).mp hdotted
        · exact hp rfl
        · simpa using hfront.length_le
  | case2 cs hsome _ ih =>
      obtain hno | ⟨front, last, rfl, hlast⟩ := not_mem_or_exists_last_dot cs
      · exact absurd (beforeLastDot_of_not_mem hno) hsome
      · rw [beforeLastDot_append hlast] at hsome ih
        rw [ancestorChars, dif_neg (by rwa [beforeLastDot_append hlast]), List.mem_cons,
          beforeLastDot_append hlast, ih, dotted_iff hlast]
        constructor
        · rintro (rfl | ⟨hp, hfront⟩)
          · exact ⟨hsome, .inl rfl⟩
          · exact ⟨hp, .inr hfront⟩
        · rintro ⟨hp, rfl | hfront⟩
          · exact .inl rfl
          · exact .inr ⟨hp, hfront⟩

/-- Each cut gives a shorter text. -/
theorem pairwise_ancestorChars (cs : List Char) :
    (ancestorChars cs).Pairwise fun p q => q.length < p.length := by
  induction cs using ancestorChars.induct with
  | case1 cs hnone =>
      rw [ancestorChars, dif_pos hnone]
      exact List.Pairwise.nil
  | case2 cs hsome _ ih =>
      rw [ancestorChars, dif_neg hsome]
      refine List.pairwise_cons.mpr ⟨fun q hq => ?_, ih⟩
      have hlength := (mem_ancestorChars_iff.mp hq).2.length_le
      rw [List.length_append, List.length_singleton] at hlength
      omega

/-- That the name of a package, which is not empty, stands in a name right before one of its dots. -/
def Encloses (package name : String) : Prop :=
  package ≠ "" ∧ ∃ rest, name = package ++ "." ++ rest

theorem encloses_iff {package name : String} :
    Encloses package name ↔ package.toList ≠ [] ∧ package.toList ++ ['.'] <+: name.toList := by
  refine and_congr (not_congr String.toList_eq_nil_iff.symm) ⟨?_, ?_⟩
  · rintro ⟨rest, rfl⟩
    exact ⟨rest.toList, by simp⟩
  · rintro ⟨rest, heq⟩
    refine ⟨String.ofList rest, String.toList_inj.mp ?_⟩
    rw [← heq]
    simp

/-- **The names around a module** are what stands before the dots of its name. -/
theorem mem_ancestors_iff {package name : String} :
    package ∈ ancestors name ↔ Encloses package name := by
  rw [encloses_iff, ← mem_ancestorChars_iff, ancestors, List.mem_map]
  constructor
  · rintro ⟨cs, hcs, rfl⟩
    rwa [String.toList_ofList]
  · intro h
    exact ⟨package.toList, h, String.ofList_toList⟩

theorem pairwise_ancestors (name : String) :
    (ancestors name).Pairwise fun p q => q.length < p.length := by
  refine List.pairwise_map.mpr ((pairwise_ancestorChars name.toList).imp fun h => ?_)
  simpa using h

/-- A name may begin or end with dots, or have several in a row. -/
example : ancestors "..a..b." = ["..a..b", "..a.", "..a", "."] := by decide +kernel

/-- The names around a module are its parent and the names around that, if it has a parent. -/
theorem ancestors_eq (name : String) :
    ancestors name = if parent name = "" then [] else parent name :: ancestors (parent name) := by
  have hempty : parent name = "" ↔ beforeLastDot name.toList = [] := by
    rw [← String.toList_eq_nil_iff, parent, String.toList_ofList]
  unfold ancestors
  rw [ancestorChars]
  by_cases h : beforeLastDot name.toList = []
  · rw [dif_pos h, if_pos (hempty.mpr h)]
    rfl
  · rw [dif_neg h, if_neg (mt hempty.mp h), parent, String.toList_ofList]
    rfl

theorem length_parent_lt {name : String} (h : parent name ≠ "") :
    (parent name).length < name.length := by
  have hname : name.toList ≠ [] := by
    intro hnil
    refine h (String.toList_eq_nil_iff.mp ?_)
    rw [parent, String.toList_ofList, hnil]
    rfl
  rw [← String.length_toList, ← String.length_toList, parent, String.toList_ofList]
  exact length_beforeLastDot_lt hname

end Standin.Package

namespace Standin.World

variable {w : World} {name : String} {found packages others : List SpaceId}

/-! ## The search, round by round -/

/-- That the search for loaded packages, begun at a name with some packages found already, ends with
the packages given.  It ends where nothing is left of the name; until then each round looks the name
up, keeps the module that is loaded under it, if there is one, and goes on with its parent. -/
inductive Finds (w : World) : String → List SpaceId → List SpaceId → Prop
  | done (found : List SpaceId) : Finds w "" found found
  | round {name : String} {found packages : List SpaceId} : name ≠ "" →
      Finds w (Package.parent name) (found ++ (w.module? name).toList) packages →
      Finds w name found packages

/-- The search ends in one way at most. -/
theorem Finds.unique (h : w.Finds name found packages) (h' : w.Finds name found others) :
    packages = others := by
  induction h with
  | done found =>
      cases h' with
      | done => rfl
      | round hne _ => exact absurd rfl hne
  | round hne _ ih =>
      cases h' with
      | done => exact absurd rfl hne
      | round _ hrest => exact ih hrest

/-- **The search ends**, since each round leaves a shorter name, and it ends with what is loaded under
the names around the module. -/
theorem finds_ancestors (w : World) (name : String) (found : List SpaceId) :
    w.Finds (Package.parent name) found
      (found ++ (Package.ancestors name).filterMap w.module?) := by
  -- A parent is no part of a name by its form, so the induction is on the length.
  induction hlength : name.length using Nat.strong_induction_on generalizing name found with
  | _ n ih =>
    rw [Package.ancestors_eq]
    split
    · next hnone =>
      rw [hnone, List.filterMap_nil, List.append_nil]
      exact .done found
    · next hsome =>
      have hshorter := Package.length_parent_lt hsome
      have hrest := ih _ (hlength ▸ hshorter) (Package.parent name)
        (found ++ (w.module? (Package.parent name)).toList) rfl
      -- A name under which nothing is loaded is passed by.
      have hkept : List.filterMap w.module?
          (Package.parent name :: Package.ancestors (Package.parent name)) =
            (w.module? (Package.parent name)).toList ++
              (Package.ancestors (Package.parent name)).filterMap w.module? := by
        rw [List.filterMap_cons]
        cases w.module? (Package.parent name) <;> rfl
      rw [hkept, ← List.append_assoc]
      exact .round hsome hrest

/-- **The packages around a module.**  Whatever the module's name is, if it has one, the search for
them ends, and in one way; it gives the modules that are loaded under the texts before the dots of
the name, the longest text first and each text once, but for the empty one. -/
theorem ancestors_search (w : World) (r : Registry) :
    let name := (w.moduleName r).getD ""
    (∀ packages, w.Finds (Package.parent name) [] packages ↔ packages = w.ancestors r) ∧
      ∃ names : List String, (∀ n, n ∈ names ↔ Package.Encloses n name) ∧
        names.Pairwise (fun n n' => n'.length < n.length) ∧
        w.ancestors r = names.filterMap fun n => (w.loaded.get? n).join := by
  intro name
  refine ⟨fun packages => ?_, Package.ancestors name, fun n => Package.mem_ancestors_iff,
    Package.pairwise_ancestors name, rfl⟩
  have hends : w.Finds (Package.parent name) [] (w.ancestors r) := finds_ancestors w name []
  constructor
  · intro h
    exact h.unique hends
  · rintro rfl
    exact hends

end Standin.World
