/-
What the opening of a body does not change about running it.

Only assignments change, and they become assignments (`eq_or_isAssignment_of_opensTo`).  An
assignment is never out of place, is no directive and is not the text that a module begins
with, so that the statements of an opened module are in order exactly if those of the module
are (`isOrderly_of_openBody`), and it begins with the same text (`introduce_of_openBody`).

The opened module has its annotations left alone, which not every annotation can be.  But one
that it did not have before is a type that was in the brackets of another, or a text, so that
what keeps it from being left alone was there before (`canWait_of_openBody`).
-/
import Standin.Proofs.Loading

set_option autoImplicit false

namespace Standin

open Source

section Opened

variable {bindings mutables : List String} {injected done : Bool}

/-- Whether a statement is an assignment, annotated or not. -/
def Source.Stmt.isAssignment : Stmt → Bool
  | .assign .. | .annAssign .. => true
  | _ => false

/-- A statement stays as it is, or is an assignment before and after. -/
theorem eq_or_isAssignment_of_opensTo {s s' : Stmt} (h : OpensTo bindings mutables injected s s') :
    s' = s ∨ (s.isAssignment = true ∧ s'.isAssignment = true) := by
  obtain ⟨-, rfl⟩ | ⟨-, hmarker, rfl⟩ |
    ⟨-, ⟨target, hint, value, simple, span, rfl, hhint⟩, hopened⟩ := opensTo_cases h
  · exact .inl rfl
  · have hs : s.isAssignment = true := by
      cases s <;> simp_all [declaresMarker, Stmt.isAssignment]
    exact .inr ⟨hs, rfl⟩
  · obtain rfl | ⟨inner, rfl⟩ := openDeclaration_keeps hopened hhint
    · exact .inr ⟨rfl, rfl⟩
    · exact .inr ⟨rfl, rfl⟩

/-- What is asked of a statement to tell whether a module may be run. -/
structure Standing where
  misplaced : Bool
  bareText : Bool
  directives : Option (List String)
  directive : Bool

/-- How a statement of a module stands among the others. -/
def Source.Stmt.standing (s : Stmt) : Standing :=
  ⟨Placement.isMisplaced ⟨false, false⟩ s, Placement.isBareText s, Placement.directives? s,
    Placement.hasDirective s⟩

theorem standing_of_isAssignment {s : Stmt} (h : s.isAssignment = true) :
    s.standing = ⟨false, false, none, false⟩ := by
  cases s <;> simp_all [Stmt.isAssignment] <;> rfl

theorem map_standing {body opened : List Stmt}
    (h : openBody bindings mutables injected body = .ok (opened, done)) :
    opened.map Stmt.standing = body.map Stmt.standing := by
  induction body generalizing injected opened with
  | nil =>
      cases h
      rfl
  | cons s rest ih =>
      obtain ⟨s', rest', rfl, hs, hrest⟩ := openBody_cons_eq_ok h
      have hsame : s'.standing = s.standing := by
        obtain rfl | ⟨hassign, hassign'⟩ := eq_or_isAssignment_of_opensTo hs
        · rfl
        · rw [standing_of_isAssignment hassign, standing_of_isAssignment hassign']
      simp only [List.map_cons, hsame, ih hrest]

theorem anyMisplaced_eq_any (body : List Stmt) :
    Placement.anyMisplaced ⟨false, false⟩ body = body.any fun s => s.standing.misplaced := by
  induction body with
  | nil => rfl
  | cons s rest ih => simp [Placement.anyMisplaced, ih, Stmt.standing]

theorem anyDirective_eq_any (body : List Stmt) :
    Placement.anyDirective body = body.any fun s => s.standing.directive := by
  induction body with
  | nil => rfl
  | cons s rest ih => simp [Placement.anyDirective, ih, Stmt.standing]

/-- Whether a module is in order is told by how its statements stand. -/
theorem isOrderly_eq (body : List Stmt) :
    Placement.isOrderly ⟨body⟩ =
      let standings := body.map Stmt.standing
      let opening := standings.takeWhile fun s => s.bareText || s.directives.isSome
      (!standings.any (·.misplaced) &&
        ((opening.filterMap (·.directives)).flatten).all Library.knownDirectives.contains &&
        !(standings.drop opening.length).any (·.directive)) := by
  simp only [Placement.isOrderly, Placement.directivesOf, Placement.opening, anyMisplaced_eq_any,
    anyDirective_eq_any, List.takeWhile_map, List.any_map, List.filterMap_map, List.length_map,
    ← List.map_drop]
  rfl

/-- Whether a module is in order does not change when it is opened. -/
theorem isOrderly_of_openBody {body opened : List Stmt}
    (h : openBody bindings mutables injected body = .ok (opened, done)) :
    Placement.isOrderly ⟨opened⟩ = Placement.isOrderly ⟨body⟩ := by
  rw [isOrderly_eq, isOrderly_eq, map_standing h]

theorem introduce_of_openBody {body opened : List Stmt}
    (h : openBody bindings mutables injected body = .ok (opened, done)) (s : SpaceId) :
    introduce s opened = introduce s body := by
  have hnone {t : Stmt} (ht : t.isAssignment = true) (rest : List Stmt) :
      introduction? (t :: rest) = none := by
    cases t <;> simp_all [Stmt.isAssignment, introduction?]
  -- Only the first statement is asked, and an assignment is no text to begin with.
  cases body with
  | nil =>
      cases h
      rfl
  | cons t rest =>
      obtain ⟨t', rest', rfl, ht, -⟩ := openBody_cons_eq_ok h
      obtain rfl | ⟨hassign, hassign'⟩ := eq_or_isAssignment_of_opensTo ht
      · have hsame : introduction? (t' :: rest') = introduction? (t' :: rest) := by
          unfold introduction?
          split <;> simp_all
        simp only [introduce, hsame]
      · simp only [introduce, hnone hassign, hnone hassign']

theorem openBody_cons {s s' : Stmt} {rest rest' : List Stmt}
    (hs : OpensTo bindings mutables injected s s')
    (hrest : openBody bindings mutables (injected || declaresMarker s) rest = .ok (rest', done)) :
    openBody bindings mutables injected (s :: rest) = .ok (s' :: rest', done) := by
  rw [openBody]
  cases hmarker : declaresMarker s with
  | true =>
      rw [hmarker, Bool.or_true] at hrest
      rw [opensTo_marker hmarker] at hs
      simp [hrest, hs]
  | false =>
      rw [hmarker, Bool.or_false] at hrest
      rw [opensTo_other hmarker] at hs
      simp [hrest, hs]

/-! ## Annotations that are left alone -/

namespace Placement.Deferred

/-- That an annotation can be left alone: nothing in it is bound or stops, and what is kept of it
can be written. -/
def CanWait (d : Deferred) : Prop := d.isStill = true ∧ d.isWritable = true

instance (d : Deferred) : Decidable d.CanWait := inferInstanceAs (Decidable (_ ∧ _))

theorem canWait_iff {d : Deferred} :
    d.CanWait ↔ (Node.expr d.hint).Every inBlock (interrupts · = false) ∧
      (d.kept = true → (Node.expr d.hint).Every Node.children fun n =>
        ∀ v marked span, n = .expr (.constant v marked span) → v.isTooLong = false) := by
  unfold CanWait isStill isWritable
  rw [Node.every_iff_reached sizeOf_lt_of_mem_inBlock, Node.every_children_iff]
  refine and_congr (by simp) ?_
  rw [Bool.or_eq_true, Bool.not_eq_true', ← Bool.not_eq_true, ← imp_iff_not_or, List.all_eq_true]
  refine imp_congr_right fun _ => forall₂_congr fun n _ => ?_
  split
  · next v marked span => simp
  · next hother => exact iff_of_true rfl fun v marked span hn => absurd hn (hother v marked span)

/-- A text can be left alone. -/
theorem canWait_text (text : String) (marked : Bool) (span : Span) (kept : Bool) :
    CanWait ⟨.constant (.text text) marked span, kept⟩ := by
  refine canWait_iff.mpr ⟨Node.every_iff.mpr ⟨rfl, fun m hm => absurd hm List.not_mem_nil⟩,
    fun _ => Node.every_of_no_children ?_ rfl⟩
  rintro v _ _ ⟨⟩
  rfl

/-- So can what is in the brackets of an annotation that can. -/
theorem CanWait.inner {qualifier inner : Expr} {usage : Usage} {place : Span} {kept : Bool}
    (h : CanWait ⟨.subscript qualifier inner usage place, kept⟩) : CanWait ⟨inner, kept⟩ := by
  obtain ⟨hstill, hwritable⟩ := canWait_iff.mp h
  have hinner : Node.expr inner ∈ [Node.expr qualifier, Node.expr inner] :=
    List.mem_cons_of_mem _ List.mem_cons_self
  exact canWait_iff.mpr ⟨hstill.part hinner, fun hkept => (hwritable hkept).part hinner⟩

end Placement.Deferred

theorem mem_hintsInAll_iff {inFunction : Bool} {body : List Stmt} {d : Placement.Deferred} :
    d ∈ Placement.hintsInAll inFunction body ↔
      ∃ s ∈ body, d ∈ Placement.hintsIn inFunction s := by
  induction body with
  | nil => simp [Placement.hintsInAll]
  | cons s rest ih => simp [Placement.hintsInAll, ih]

/-- **The annotations of an opened module can be left alone** if those of the module can.  A final
declaration has none, the type in the brackets, or a text; all other statements keep theirs. -/
theorem canWait_of_openBody {body opened : List Stmt}
    (h : openBody bindings mutables injected body = .ok (opened, done))
    (hbody : ∀ d ∈ Placement.hintsInAll false body, d.CanWait) :
    ∀ d ∈ Placement.hintsInAll false opened, d.CanWait := by
  intro d hd
  obtain ⟨s', hs', hd⟩ := mem_hintsInAll_iff.mp hd
  obtain ⟨injected', s, hs, hopens⟩ := exists_mem_of_mem_opened h hs'
  have hstmt : ∀ d ∈ Placement.hintsIn false s, d.CanWait := fun d hd =>
    hbody d (mem_hintsInAll_iff.mpr ⟨s, hs, hd⟩)
  obtain ⟨-, rfl⟩ | ⟨-, -, rfl⟩ | ⟨-, ⟨target, hint, value, simple, span, rfl, hhint⟩, hopened⟩ :=
    opensTo_cases hopens
  · exact hstmt d hd
  · exact absurd hd List.not_mem_nil
  · have hwait : Placement.Deferred.CanWait ⟨hint, simple && !false⟩ :=
      hstmt _ List.mem_cons_self
    obtain ⟨-, rfl⟩ | ⟨qualifier, inner, usage, place, rfl, rfl⟩ |
      ⟨s, marked, place, text, rfl, rfl⟩ := openDeclaration_of_final hopened hhint
    · exact absurd hd List.not_mem_nil
    · obtain rfl := List.mem_singleton.mp hd
      exact hwait.inner
    · obtain rfl := List.mem_singleton.mp hd
      exact Placement.Deferred.canWait_text text false span _

/-- **An opened module can be run** if the module can as it stands, and its annotations can be left
alone. -/
theorem runnable_of_openBody {body opened : List Stmt} {lazyHints : Bool}
    (h : openBody bindings mutables injected body = .ok (opened, done))
    (hbody : ∀ d ∈ Placement.hintsInAll false body, d.CanWait)
    (hrunnable : Placement.isRunnable ⟨body⟩ lazyHints = true) :
    Surroundings.runnable ⟨opened⟩ true = .ok (⟨opened⟩, true) := by
  have hwait := canWait_of_openBody h hbody
  have horderly : Placement.isOrderly ⟨opened⟩ = true := by
    rw [isOrderly_of_openBody h]
    exact (Bool.and_eq_true_iff.mp hrunnable).1
  have hstill : (Placement.hintsInAll false opened).all Placement.Deferred.isStill = true :=
    List.all_eq_true.mpr fun d hd => (hwait d hd).1
  have hwritable : (Placement.hintsInAll false opened).all Placement.Deferred.isWritable = true :=
    List.all_eq_true.mpr fun d hd => (hwait d hd).2
  simp [Surroundings.runnable, Placement.isRunnable, horderly, hstill, hwritable]

/-- What comes of two parts of a body comes of each of them. -/
theorem openBody_append {before after opened : List Stmt}
    (h : openBody bindings mutables injected (before ++ after) = .ok (opened, done)) :
    ∃ before' after' mid, opened = before' ++ after' ∧
      openBody bindings mutables injected before = .ok (before', mid) ∧
      openBody bindings mutables mid after = .ok (after', done) := by
  induction before generalizing injected opened with
  | nil => exact ⟨[], opened, injected, rfl, rfl, h⟩
  | cons s rest ih =>
      obtain ⟨s', rest', rfl, hs, hrest⟩ := openBody_cons_eq_ok h
      obtain ⟨before', after', mid, rfl, hbefore, hafter⟩ := ih hrest
      exact ⟨s' :: before', after', mid, rfl, openBody_cons hs hbefore, hafter⟩

end Opened

end Standin
