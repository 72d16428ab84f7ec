/-
One step of a running module beside another.

`Follows` is a relation between two steps, for memories in tandem: both give answers that
compare and leave memories in tandem, or both fail in the same way.  There is a rule for each
way in which steps are put together (`follows_bind`, `follows_tryCatch`, `follows_forM`), so
that the proofs for the single statements go along their definitions.

The relation has a lenient form, where it says nothing if the first step fails.  It is needed
at one place only: the opened module leaves its annotations alone, which the module as it
stands evaluates.  An annotation changes nothing (`Quiet`), so it may be left out where the
first run is known to come to its end (`Quiet.follows_skip`).

How the answers compare may depend on how many registries there are by then, since no object
is a registry that has not been made yet.
-/
import Standin.Proofs.Tandem

set_option autoImplicit false

namespace Standin

open Source

/-! ## Steps from a memory -/

section Outcome

variable {α β : Type}

/-- What a step gives from a memory: its answer or its fault, and the memory it leaves. -/
def outcome (x : Run α) (m : Memory) : Except Fault α × Memory := x.run.run m

theorem outcome_bind (x : Run α) (f : α → Run β) (m : Memory) :
    outcome (x >>= f) m =
      match outcome x m with
      | (.ok a, m') => outcome (f a) m'
      | (.error e, m') => (.error e, m') := by
  simp only [outcome, ExceptT.run_bind, StateT.run_bind]
  rcases h : StateT.run (ExceptT.run x) m with ⟨(e | a), m'⟩ <;> rfl

theorem outcome_tryCatch (x : Run α) (h : Fault → Run α) (m : Memory) :
    outcome (tryCatch x h) m =
      match outcome x m with
      | (.error e, m') => outcome (h e) m'
      | r => r := by
  -- Both layers of the step have a way to catch; this is the one of the faults.
  have hcatch : tryCatch x h = ExceptT.tryCatch x h := rfl
  rw [hcatch]
  simp only [outcome, ExceptT.tryCatch, ExceptT.run_mk, StateT.run_bind]
  rcases hx : StateT.run (ExceptT.run x) m with ⟨(e | a), m'⟩
  · have hx' : StateT.run x m = (.error e, m') := hx
    rw [hx']
    rfl
  · have hx' : StateT.run x m = (.ok a, m') := hx
    rw [hx']
    rfl

theorem outcome_bind_eq_ok {x : Run α} {f : α → Run β} {b : β} {m m' : Memory}
    (h : outcome (x >>= f) m = (.ok b, m')) :
    ∃ a m₁, outcome x m = (.ok a, m₁) ∧ outcome (f a) m₁ = (.ok b, m') := by
  rw [outcome_bind] at h
  rcases hx : outcome x m with ⟨(e | a), m₁⟩
  · simp [hx] at h
  · exact ⟨a, m₁, rfl, by simpa [hx] using h⟩

end Outcome

/-! ## Steps side by side -/

/-- How the outcomes of two steps compare.  If the comparison is not strict, nothing is said where
the first step fails. -/
inductive Agrees (c : Pairing) (strict : Bool) (count : Nat) {α β : Type} (P : Nat → α → β → Prop) :
    Except Fault α × Memory → Except Fault β × Memory → Prop
  | ok {a : α} {b : β} {m n : Memory} (tandem : Tandem c m n) (le : count ≤ m.registries)
      (answer : P m.registries a b) : Agrees c strict count P (.ok a, m) (.ok b, n)
  | error {e : Fault} {m n : Memory} (tandem : Tandem c m n) (le : count ≤ m.registries) :
      Agrees c strict count P (.error e, m) (.error e, n)
  | fails {e : Fault} {m : Memory} {r : Except Fault β × Memory} (lenient : strict = false) :
      Agrees c strict count P (.error e, m) r

/-- That one step follows another, from memories in tandem that have at least so many registries. -/
def Follows (c : Pairing) (strict : Bool) (count : Nat) {α β : Type} (P : Nat → α → β → Prop)
    (x : Run α) (y : Run β) : Prop :=
  ∀ m n, Tandem c m n → count ≤ m.registries →
    Agrees c strict count P (outcome x m) (outcome y n)

section Follows

variable {α β α' β' : Type} {c : Pairing} {strict : Bool} {count : Nat}
  {P : Nat → α → β → Prop} {Q : Nat → α' → β' → Prop}

theorem Agrees.of_le {count' : Nat} {r : Except Fault α × Memory} {r' : Except Fault β × Memory}
    (h : Agrees c strict count' P r r') (hle : count ≤ count') : Agrees c strict count P r r' := by
  cases h with
  | ok htandem h hab => exact .ok htandem (Nat.le_trans hle h) hab
  | error htandem h => exact .error htandem (Nat.le_trans hle h)
  | fails h => exact .fails h

/-- One step after another: the second step may rely on what the first one gives. -/
theorem follows_bind {x : Run α} {y : Run β} {f : α → Run α'} {g : β → Run β'}
    (hx : Follows c strict count P x y)
    (hf : ∀ count', count ≤ count' → ∀ a b, P count' a b →
      Follows c strict count' Q (f a) (g b)) :
    Follows c strict count Q (x >>= f) (y >>= g) := by
  intro m n htandem hle
  have hstep := hx m n htandem hle
  rw [outcome_bind, outcome_bind]
  generalize outcome x m = r at hstep
  generalize outcome y n = r' at hstep
  cases hstep with
  | ok htandem' hle' hab =>
      exact (hf _ hle' _ _ hab _ _ htandem' (Nat.le_refl _)).of_le hle'
  | error htandem' hle' => exact .error htandem' hle'
  | fails h => exact .fails h

theorem follows_pure {a : α} {b : β} (h : ∀ count', count ≤ count' → P count' a b) :
    Follows c strict count P (pure a) (pure b) :=
  fun _ _ htandem hle => .ok htandem hle (h _ hle)

theorem follows_fail (line : Nat) (reason : Reason) :
    Follows c strict count P (Run.fail line reason) (Run.fail line reason) :=
  fun _ _ htandem hle => .error htandem hle

theorem follows_get :
    Follows c strict count (fun count' m n => Tandem c m n ∧ m.registries = count')
      (get : Run Memory) (get : Run Memory) :=
  fun _ _ htandem hle => .ok htandem hle ⟨htandem, rfl⟩

theorem follows_modify {f g : Memory → Memory}
    (h : ∀ m n, Tandem c m n → count ≤ m.registries →
      Tandem c (f m) (g n) ∧ m.registries ≤ (f m).registries) :
    Follows c strict count (fun _ _ _ => True) (modify f : Run Unit) (modify g : Run Unit) := by
  intro m n htandem hle
  obtain ⟨htandem', hle'⟩ := h m n htandem hle
  exact .ok htandem' (Nat.le_trans hle hle') trivial

theorem follows_modifyGet {f : Memory → α × Memory} {g : Memory → β × Memory}
    (h : ∀ m n, Tandem c m n → count ≤ m.registries →
      Tandem c (f m).2 (g n).2 ∧ m.registries ≤ (f m).2.registries ∧
        P (f m).2.registries (f m).1 (g n).1) :
    Follows c strict count P (modifyGet f : Run α) (modifyGet g : Run β) := by
  intro m n htandem hle
  obtain ⟨htandem', hle', hab⟩ := h m n htandem hle
  exact .ok htandem' (Nat.le_trans hle hle') hab

/-- What holds of all outcomes holds of those where the first step does not fail. -/
theorem Follows.lenient {x : Run α} {y : Run β} (h : Follows c true count P x y) :
    Follows c strict count P x y := by
  intro m n htandem hle
  have hstep := h m n htandem hle
  generalize outcome x m = r at hstep
  generalize outcome y n = r' at hstep
  -- A strict comparison never has the third form.
  cases hstep with
  | ok htandem' hle' hab => exact .ok htandem' hle' hab
  | error htandem' hle' => exact .error htandem' hle'
  | fails h => cases h

theorem follows_tryCatch {x : Run α} {y : Run β} {f : Fault → Run α} {g : Fault → Run β}
    (hx : Follows c true count P x y)
    (hf : ∀ count', count ≤ count' → ∀ e, Follows c true count' P (f e) (g e)) :
    Follows c true count P (tryCatch x f) (tryCatch y g) := by
  intro m n htandem hle
  have hstep := hx m n htandem hle
  rw [outcome_tryCatch, outcome_tryCatch]
  generalize outcome x m = r at hstep
  generalize outcome y n = r' at hstep
  cases hstep with
  | ok htandem' hle' hab => exact .ok htandem' hle' hab
  | error htandem' hle' =>
      exact (hf _ hle' _ _ _ htandem' (Nat.le_refl _)).of_le hle'
  | fails h => cases h

/-- What a run gives that follows another one that comes to its end. -/
theorem Follows.of_eq_ok {x : Run α} {y : Run β} (h : Follows c strict count P x y)
    {m n m' : Memory} (htandem : Tandem c m n) (hle : count ≤ m.registries) {a : α}
    (hx : outcome x m = (.ok a, m')) :
    ∃ b n', outcome y n = (.ok b, n') ∧ Tandem c m' n' ∧ P m'.registries a b ∧
      count ≤ m'.registries := by
  have hstep := h m n htandem hle
  rw [hx] at hstep
  generalize hy : outcome y n = r at hstep
  cases hstep with
  | ok htandem' hle' hab => exact ⟨_, _, rfl, htandem', hab, hle'⟩

/-! ### Answers that may be faults -/

/-- How two answers compare. -/
inductive Answers {α β : Type} (P : α → β → Prop) : Except Reason α → Except Reason β → Prop
  | ok {a : α} {b : β} (h : P a b) : Answers P (.ok a) (.ok b)
  | error (reason : Reason) : Answers P (.error reason) (.error reason)

theorem Answers.refl {P : α → α → Prop} {r : Except Reason α} (h : ∀ a, r = .ok a → P a a) :
    Answers P r r := by
  cases r with
  | ok a => exact .ok (h a rfl)
  | error reason => exact .error reason

/-- Answers that compare go on to compare as steps, if later registries do not change that. -/
theorem follows_lift (line : Nat) {r : Except Reason α} {r' : Except Reason β}
    (hmono : ∀ count', count ≤ count' → ∀ a b, P count a b → P count' a b)
    (h : Answers (P count) r r') :
    Follows c strict count P (Run.lift line r) (Run.lift line r') := by
  cases h with
  | ok hab => exact follows_pure fun _ hle => hmono _ hle _ _ hab
  | error reason => exact follows_fail _ _

/-! ### Steps over lists -/

theorem follows_forM {g g' : α → Run Unit} {xs : List α}
    (h : ∀ x ∈ xs, ∀ count', Follows c strict count' (fun _ _ _ => True) (g x) (g' x)) :
    Follows c strict count (fun _ _ _ => True) (xs.forM g) (xs.forM g') := by
  induction xs generalizing count with
  | nil => exact follows_pure fun _ _ => trivial
  | cons x rest ih =>
      obtain ⟨hx, hrest⟩ := List.forall_mem_cons.mp h
      exact follows_bind (hx _) fun _ _ _ _ _ => ih hrest

/-! ### Steps that change nothing -/

/-- That a step changes nothing, whatever it gives. -/
def Quiet (x : Run α) : Prop := ∀ m, (outcome x m).2 = m

theorem quiet_bind {x : Run α} {g : α → Run β} (hx : Quiet x)
    (hg : ∀ a, Quiet (g a)) : Quiet (x >>= g) := by
  intro m
  have hstep := hx m
  rw [outcome_bind]
  -- A fault ends the steps, and the memory is as it was by then.
  rcases h : outcome x m with ⟨(e | a), m'⟩
  · simpa [h] using hstep
  · obtain rfl : m' = m := by simpa [h] using hstep
    exact hg a m'

/-- A step that changes nothing may be left out where the first run is known to come to its end. -/
theorem Quiet.follows_skip {x : Run Unit} (hx : Quiet x) :
    Follows c false count (fun _ _ _ => True) x (pure ()) := by
  intro m n htandem hle
  have hstep := hx m
  rcases h : outcome x m with ⟨(e | a), m'⟩
  · exact .fails rfl
  · obtain rfl : m' = m := by simpa [h] using hstep
    exact .ok htandem hle trivial

end Follows

end Standin
