/-
Which files the roots and the patterns of a finder let through.

Whether a file may be opened is asked of each root and of each pattern by itself: it must lie in
one of the roots and be covered by none of the patterns, so the answers for two lists make up that
for both together.  A root counts as the place that it leads to.  Where no links are on the way,
this is its parts without idle ones and without double dots, so all spellings of a root
(`Respelling`) are one; and as a file lies in a root whose parts its own parts begin with, a root
within another one adds nothing, and a directory whose name only goes on after a root's name is not
in it.
-/
import Standin.Hook.Spec
import Standin.Proofs.Splitting
import Mathlib.Logic.Relation

set_option autoImplicit false

namespace Standin

/-! ## Places without links -/

/-- That there are no links on a disk. -/
def Disk.HasNoLinks (d : Disk) : Prop := ∀ entry ∈ d.entries, ∀ target, entry.2 ≠ .link target

namespace Disk

variable {d : Disk}

theorem HasNoLinks.entryAt_ne (h : d.HasNoLinks) (place target : List String) :
    d.entryAt place ≠ some (.link target) := by
  intro hentry
  obtain ⟨entry, hfind, heq⟩ := Option.map_eq_some_iff.mp hentry
  exact h entry (List.mem_of_find?_eq_some hfind) target heq

theorem HasNoLinks.resolveAlong_eq (h : d.HasNoLinks)
    (jump : Option (List String → List String)) (here parts : List String) :
    d.resolveAlong jump here parts = (parts.foldl Path.walk here).reverse := by
  induction parts generalizing here with
  | nil => rfl
  | cons part parts ih =>
      unfold resolveAlong
      rw [List.foldl_cons, Path.walk]
      by_cases hup : part = ".."
      · rw [if_pos hup, if_pos hup, ih]
      · rw [if_neg hup, if_neg hup]
        split
        · next hentry => exact absurd hentry (h.entryAt_ne _ _)
        · exact ih _

/-- Without links a path leads where its parts say. -/
theorem HasNoLinks.resolve_eq (h : d.HasNoLinks) (p : Path) : d.resolve p = p.resolve := by
  rw [resolve, linkLimit, resolveFrom, h.resolveAlong_eq]
  rfl

end Disk

/-! ## Spellings of a path -/

namespace Path

theorem partsOf_append (as bs : List Char) :
    partsOf (as ++ '/' :: bs) = partsOf as ++ partsOf bs := by
  rw [partsOf, Text.splitChars_append, List.filter_append, List.map_append]
  rfl

theorem partsOf_of_not_mem {part : List Char} (h : '/' ∉ part) (hidle : isIdle part = false) :
    partsOf part = [String.ofList part] := by
  rw [partsOf, Text.splitChars_of_not_mem h, List.filter_cons_of_pos (by simp [hidle])]
  rfl

/-- Nothing stands before a slash that comes first. -/
theorem partsOf_slash (bs : List Char) : partsOf ('/' :: bs) = partsOf bs := partsOf_append [] bs

/-- A dot is idle. -/
theorem partsOf_dot (bs : List Char) : partsOf ('.' :: '/' :: bs) = partsOf bs :=
  partsOf_append ['.'] bs

/-- Two dots are a part. -/
theorem partsOf_dots (bs : List Char) : partsOf ('.' :: '.' :: '/' :: bs) = ".." :: partsOf bs :=
  partsOf_append ['.', '.'] bs

/-- That one text of a path is a longer spelling of another: it has a slash twice, a dot or a name
with two dots after it where the other one has a slash, two dots at the top, or a slash at its
end. -/
inductive Respelling : List Char → List Char → Prop
  | slash (as bs : List Char) : Respelling (as ++ '/' :: '/' :: bs) (as ++ '/' :: bs)
  | dot (as bs : List Char) : Respelling (as ++ '/' :: '.' :: '/' :: bs) (as ++ '/' :: bs)
  | up (as part bs : List Char) (hslash : '/' ∉ part) (hidle : isIdle part = false)
    (hdots : part ≠ ['.', '.']) :
    Respelling (as ++ '/' :: (part ++ '/' :: '.' :: '.' :: '/' :: bs)) (as ++ '/' :: bs)
  | top (bs : List Char) : Respelling ('/' :: '.' :: '.' :: '/' :: bs) ('/' :: bs)
  | trailing (as : List Char) (hne : as ≠ []) : Respelling (as ++ ['/']) as

/-- That two texts spell one path. -/
def SameSpelling (r r' : String) : Prop := Relation.EqvGen Respelling r.toList r'.toList

theorem straighten_up {parts parts' : List String} {part : String} (h : part ≠ "..") :
    straighten (parts ++ part :: ".." :: parts') = straighten (parts ++ parts') := by
  rw [straighten, straighten, List.foldl_append, List.foldl_append, List.foldl_cons,
    List.foldl_cons, walk, walk, if_pos rfl, if_neg h, List.drop_one, List.tail_cons]

/-- A longer spelling leads to the same place. -/
theorem straighten_of_respelling {as bs : List Char} (h : Respelling as bs) :
    straighten (partsOf as) = straighten (partsOf bs) := by
  cases h with
  | slash as bs => rw [partsOf_append, partsOf_append, partsOf_slash]
  | dot as bs => rw [partsOf_append, partsOf_append, partsOf_dot]
  | @up as part bs hslash hidle hparent =>
      have hne : String.ofList part ≠ ".." := by
        intro h
        apply hparent
        rw [← String.toList_ofList (l := part), h]
        rfl
      rw [partsOf_append as, partsOf_append part, partsOf_of_not_mem hslash hidle, partsOf_dots,
        partsOf_append, List.singleton_append, straighten_up hne]
  | top bs =>
      -- There is nothing above the top.
      rw [partsOf_slash, partsOf_slash, partsOf_dots]
      rfl
  | trailing hne => rw [partsOf_append, show partsOf [] = [] from rfl, List.append_nil]

/-- **All spellings of a path** lead to one place. -/
theorem resolve_eq_of_sameSpelling {r r' : String} (h : SameSpelling r r') :
    (ofText r).resolve = (ofText r').resolve := by
  have hparts {as bs : List Char} (h : Relation.EqvGen Respelling as bs) :
      straighten (partsOf as) = straighten (partsOf bs) := by
    -- Leading to one place is an equivalence, so it is enough to look at a single longer spelling.
    induction h with
    | rel as bs h => exact straighten_of_respelling h
    | refl as => rfl
    | symm as bs _ ih => exact ih.symm
    | trans as bs cs _ _ ih ih' => exact ih.trans ih'
  rw [resolve, resolve, ofText, ofText, hparts h]

/-! ## Lying in a directory -/

variable {p q r : Path}

/-- A path lies in a directory if it goes on, part by part, after all parts of the directory. -/
theorem isIn_iff : p.isIn q = true ↔ p.root = q.root ∧ ∃ rest, p.parts = q.parts ++ rest := by
  rw [isIn, Bool.and_eq_true, beq_iff_eq, List.isPrefixOf_iff_prefix]
  exact and_congr_right fun _ => ⟨fun ⟨rest, h⟩ => ⟨rest, h.symm⟩, fun ⟨rest, h⟩ => ⟨rest, h.symm⟩⟩

theorem isIn_trans (h : p.isIn q = true) (h' : q.isIn r = true) : p.isIn r = true := by
  obtain ⟨hroot, rest, hparts⟩ := isIn_iff.mp h
  obtain ⟨hroot', rest', hparts'⟩ := isIn_iff.mp h'
  refine isIn_iff.mpr ⟨hroot.trans hroot', rest' ++ rest, ?_⟩
  rw [hparts, hparts', List.append_assoc]

/-- A directory whose name goes on after that of another one is not in it. -/
theorem not_isIn_of_longer_name {parent rest : List String} {name more : String}
    (hmore : more ≠ "") (hp : p.parts = parent ++ (name ++ more) :: rest)
    (hq : q.parts = parent ++ [name]) : p.isIn q = false := by
  rw [← Bool.not_eq_true, isIn_iff]
  rintro ⟨-, rest', heq⟩
  -- If it were in it, the longer name would be the shorter one.
  rw [hp, hq, List.append_assoc, List.append_cancel_left_eq, List.singleton_append,
    List.cons.injEq] at heq
  have hlength := congrArg String.length heq.1
  rw [String.length_append] at hlength
  have hpos : 0 < more.length := by
    rw [Nat.pos_iff_ne_zero]
    intro hzero
    exact hmore (String.length_eq_zero_iff.mp hzero)
  omega

end Path

/-! ## Verdicts -/

namespace Finder

/-- What the finder for roots and patterns, all given as texts, says of a path. -/
def verdict (disk : Disk) (roots patterns : List String) (p : Path) : Except ListError Bool :=
  (Finder.new disk (roots.map .ofText) (patterns.map .text)).admits p

/-- Whether a path lies in the place that one of the roots leads to. -/
def liesInOne (roots : List String) (p : Path) : Bool :=
  roots.any fun r => p.isIn (Path.ofText r).resolve

/-- Whether one of the patterns covers a path. -/
def coveredByOne (patterns : List String) (p : Path) : Bool :=
  patterns.any fun t => (Text.Glob.ofText t).covers p.text

variable {disk : Disk} {p : Path}

theorem isExcluded_texts (patterns : List String) :
    isExcluded p (patterns.map .text) = .ok (coveredByOne patterns p) := by
  induction patterns with
  | nil => rfl
  | cons t patterns ih =>
      rw [List.map_cons, Value.text, isExcluded, coveredByOne, List.any_cons]
      by_cases hcovers : (Text.Glob.ofText t).covers p.text = true
      · rw [if_pos hcovers, hcovers, Bool.true_or]
      · rw [if_neg hcovers, ih, (Bool.not_eq_true _).mp hcovers, Bool.false_or]
        rfl

/-- What is asked of a path: that it is of a module, that it lies in one of the roots, and that no
pattern covers it. -/
theorem verdict_eq (hlinks : disk.HasNoLinks) (roots patterns : List String) :
    verdict disk roots patterns p =
      .ok (isModuleFile p && liesInOne roots p && !coveredByOne patterns p) := by
  have hinside : (Finder.new disk (roots.map .ofText) (patterns.map .text)).isInside p =
      liesInOne roots p := by
    rw [Finder.new, isInside, liesInOne, List.any_map, List.any_map]
    congr 1
    funext r
    exact congrArg p.isIn (hlinks.resolve_eq _)
  rw [verdict, admits, hinside, Finder.new, isExcluded_texts]
  by_cases h : (isModuleFile p && liesInOne roots p) = true
  · rw [if_pos h, h, Bool.true_and]
    rfl
  · rw [if_neg h, (Bool.not_eq_true _).mp h, Bool.false_and]

theorem liesInOne_append (P Q : List String) :
    liesInOne (P ++ Q) p = (liesInOne P p || liesInOne Q p) := List.any_append

theorem coveredByOne_append (E F : List String) :
    coveredByOne (E ++ F) p = (coveredByOne E p || coveredByOne F p) := List.any_append

theorem liesInOne_iff {roots : List String} :
    liesInOne roots p = true ↔ ∃ r ∈ roots, p.isIn (Path.ofText r).resolve = true :=
  List.any_eq_true

/-- That two lists of roots name the same places, in any order, any number of times and in any
spelling. -/
def SameRoots (P P' : List String) : Prop :=
  (∀ r ∈ P, ∃ r' ∈ P', Path.SameSpelling r r') ∧ ∀ r' ∈ P', ∃ r ∈ P, Path.SameSpelling r r'

theorem liesInOne_congr {P P' : List String} (h : SameRoots P P') :
    liesInOne P p = liesInOne P' p := by
  rw [Bool.eq_iff_iff, liesInOne_iff, liesInOne_iff]
  constructor
  · rintro ⟨r, hr, hin⟩
    obtain ⟨r', hr', hsame⟩ := h.1 r hr
    exact ⟨r', hr', Path.resolve_eq_of_sameSpelling hsame ▸ hin⟩
  · rintro ⟨r', hr', hin⟩
    obtain ⟨r, hr, hsame⟩ := h.2 r' hr'
    exact ⟨r, hr, Path.resolve_eq_of_sameSpelling hsame ▸ hin⟩

/-- A root that lies in another one adds nothing. -/
theorem liesInOne_drop {P Q : List String} {r q : String} (hq : q ∈ P ++ Q)
    (hin : (Path.ofText r).resolve.isIn (Path.ofText q).resolve = true) :
    liesInOne (P ++ r :: Q) p = liesInOne (P ++ Q) p := by
  rw [Bool.eq_iff_iff, liesInOne_iff, liesInOne_iff]
  constructor
  · rintro ⟨r', hr', hp⟩
    rw [List.mem_append, List.mem_cons] at hr'
    obtain hr' | rfl | hr' := hr'
    · exact ⟨r', List.mem_append_left _ hr', hp⟩
    · exact ⟨q, hq, Path.isIn_trans hp hin⟩
    · exact ⟨r', List.mem_append_right _ hr', hp⟩
  · rintro ⟨r', hr', hp⟩
    refine ⟨r', ?_, hp⟩
    rw [List.mem_append, List.mem_cons]
    exact (List.mem_append.mp hr').imp_right .inr

/-- **How the verdicts for roots and patterns make up one another.** Patterns that are texts always
give a verdict. A path is let through under two lists of roots together if it is under one of them,
and under two lists of patterns together if it is under each; the order, the number and the spelling
of roots do not matter; a root that lies in another one can be left out; and a path that is let
through has all parts of some root in front of its own, so it is in no directory whose name only
goes on after that of the root. -/
theorem verdict_laws (hlinks : disk.HasNoLinks) (P Q E F : List String) (p : Path) :
    (∃ b, verdict disk P E p = .ok b) ∧
    (verdict disk (P ++ Q) E p = .ok true ↔
      verdict disk P E p = .ok true ∨ verdict disk Q E p = .ok true) ∧
    (verdict disk P (E ++ F) p = .ok true ↔
      verdict disk P E p = .ok true ∧ verdict disk P F p = .ok true) ∧
    (∀ P', SameRoots P P' → verdict disk P E p = verdict disk P' E p) ∧
    (∀ r, ∀ q ∈ P ++ Q, (Path.ofText r).resolve.isIn (Path.ofText q).resolve = true →
      verdict disk (P ++ r :: Q) E p = verdict disk (P ++ Q) E p) ∧
    (verdict disk P E p = .ok true → ∃ r ∈ P, p.root = .slash ∧
      ∃ rest, p.parts = (Path.ofText r).resolve.parts ++ rest) ∧
    ∀ r parent name more rest, (Path.ofText r).resolve.parts = parent ++ [name] → more ≠ "" →
      p.parts = parent ++ (name ++ more) :: rest → verdict disk [r] E p = .ok false := by
  simp only [verdict_eq hlinks, Except.ok.injEq]
  refine ⟨⟨_, rfl⟩, ?_, ?_, ?_, ?_, ?_, ?_⟩
  · rw [liesInOne_append, Bool.and_or_distrib_left, Bool.and_or_distrib_right, Bool.or_eq_true]
  · rw [coveredByOne_append, Bool.not_or]
    simp only [Bool.and_eq_true]
    exact and_and_left
  · intro P' hsame
    rw [liesInOne_congr hsame]
  · intro r q hq hin
    rw [liesInOne_drop hq hin]
  · intro h
    rw [Bool.and_eq_true, Bool.and_eq_true, liesInOne_iff] at h
    obtain ⟨⟨-, r, hr, hin⟩, -⟩ := h
    obtain ⟨hroot, rest, hparts⟩ := Path.isIn_iff.mp hin
    exact ⟨r, hr, hroot, rest, hparts⟩
  · intro r parent name more rest hr hmore hp
    have hout : liesInOne [r] p = false := by
      rw [liesInOne, List.any_cons, List.any_nil, Bool.or_false]
      exact Path.not_isIn_of_longer_name hmore hp hr
    rw [hout, Bool.and_false, Bool.false_and]

/-- A root that is spelled the long way round counts like the short one, the directory of a module
in it can be left out, and a directory with a shorter name does not hold the file. -/
theorem verdict_laws_birdhouse :
    verdict ⟨[], []⟩ ["/home//aviary/../birdhouse/"] ["*/old/*"] (.ofText "/home/birdhouse/core.py") =
        verdict ⟨[], []⟩ ["/home/birdhouse"] ["*/old/*"] (.ofText "/home/birdhouse/core.py") ∧
      verdict ⟨[], []⟩ ["/home/birdhouse", "/home/birdhouse/perches"] ["*/old/*"]
          (.ofText "/home/birdhouse/core.py") =
        verdict ⟨[], []⟩ ["/home/birdhouse"] ["*/old/*"] (.ofText "/home/birdhouse/core.py") ∧
      verdict ⟨[], []⟩ ["/home/bird"] ["*/old/*"] (.ofText "/home/birdhouse/core.py") =
        .ok false := by
  have hlinks : (⟨[], []⟩ : Disk).HasNoLinks := fun entry hentry => by cases hentry
  -- The slash at the end goes first, then the second of two, then the name with two dots after it.
  have hspelling : Path.SameSpelling "/home//aviary/../birdhouse/" "/home/birdhouse" :=
    .trans _ _ _ (.rel _ _ (.trailing "/home//aviary/../birdhouse".toList (by decide)))
      (.trans _ _ _ (.rel _ _ (.slash "/home".toList "aviary/../birdhouse".toList))
        (.rel _ _ (.up "/home".toList "aviary".toList "birdhouse".toList
          (by decide) (by decide) (by decide))))
  have hsame : SameRoots ["/home//aviary/../birdhouse/"] ["/home/birdhouse"] :=
    ⟨fun r hr => ⟨_, List.mem_singleton.mpr rfl, List.mem_singleton.mp hr ▸ hspelling⟩,
      fun r hr => ⟨_, List.mem_singleton.mpr rfl, List.mem_singleton.mp hr ▸ hspelling⟩⟩
  obtain ⟨-, -, -, hroots, -⟩ := verdict_laws hlinks ["/home//aviary/../birdhouse/"] [] ["*/old/*"]
    [] (.ofText "/home/birdhouse/core.py")
  obtain ⟨-, -, -, -, hdrop, -, hsibling⟩ := verdict_laws hlinks ["/home/birdhouse"] [] ["*/old/*"]
    [] (.ofText "/home/birdhouse/core.py")
  refine ⟨hroots _ hsame, ?_, ?_⟩
  · exact hdrop "/home/birdhouse/perches" "/home/birdhouse" (by simp) (by decide)
  · exact hsibling "/home/bird" ["home"] "bird" "house" ["core.py"] (by decide) (by decide)
      (by decide)

end Finder

end Standin
