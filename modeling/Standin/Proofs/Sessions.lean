/-
When the list of finders agrees with the current session.

What a call leaves behind in the list depends on what it finds there.  A session that is
enabled registers its finder, and the end of one takes it out; but a session that is not
enabled leaves the list as it is when it begins, and as it is when it ends.  So the list
agrees with the current session after every call exactly if no session that is not enabled
begins while one that is enabled is current (`agrees_after_calls_iff`).  Then a finder stays
that belongs to no session, and what ends the session does not take it out either.
-/
import Standin.Session
import Standin.Proofs.Finders
import Mathlib.Data.List.Chain
import Mathlib.Data.List.Induction

set_option autoImplicit false

namespace Standin

/-- A session that begins: a project and a command line with settings that can be read, and the
session that they give. -/
structure Beginning where
  disk : Disk
  project : Path
  options : Options
  session : Session
  read_eq : Session.read disk project options = .ok session

/-- The finder for the directories of a session, and with its patterns. -/
def Beginning.finder (b : Beginning) : Finder := .new b.disk b.session.paths b.session.exclude

/-- A call: a session begins, or the current one ends. -/
inductive HookCall where
  | begins (b : Beginning)
  | ends

/-- The session that is current after a call. -/
def HookCall.session? : HookCall → Option Session
  | .begins b => some b.session
  | .ends => none

/-- Whether the session that is current after a call is enabled. -/
def HookCall.enables (c : HookCall) : Bool := c.session?.any (·.enabled)

/-- That a call does not begin a session that is not enabled while the one before it has left one
that is. -/
def HookCall.Admits (c c' : HookCall) : Prop :=
  c.enables = true → ∀ b, c' = .begins b → b.session.enabled = true

namespace Installation

/-- No session, and nothing but finders of other kinds. -/
def fresh (ids : List Nat) : Installation := ⟨none, .ofForeign ids⟩

def call (i : Installation) : HookCall → Installation
  | .begins b => i.start b.disk b.session
  | .ends => i.stop

/-- What calls make of an installation, one after the other. -/
def callAll (i : Installation) (calls : List HookCall) : Installation := calls.foldl call i

variable {i : Installation}

theorem callAll_append (calls : List HookCall) (c : HookCall) :
    i.callAll (calls ++ [c]) = (i.callAll calls).call c := by
  simp [callAll]

theorem session_call (i : Installation) (c : HookCall) : (i.call c).session = c.session? := by
  cases c <;> rfl

/-- That the list agrees with the session that a call has left: a finder is in it exactly if there
is a session and it is enabled, and then it is the finder of that session. -/
structure Agrees (i : Installation) (c : HookCall) : Prop where
  session_eq : i.session = c.session?
  listed_iff : i.hooks.ownFinders ≠ [] ↔ ∃ s, i.session = some s ∧ s.enabled = true
  finder_eq : ∀ entry ∈ i.hooks.ownFinders, ∀ b, c = .begins b → entry.2 = b.finder

theorem exists_enabled_iff {c : HookCall} (h : i.session = c.session?) :
    (∃ s, i.session = some s ∧ s.enabled = true) ↔ c.enables = true := by
  simp [h, HookCall.enables, Option.any_eq_true]

theorem Agrees.enables_iff {c : HookCall} (h : i.Agrees c) :
    i.hooks.ownFinders ≠ [] ↔ c.enables = true :=
  h.listed_iff.trans (exists_enabled_iff h.session_eq)

/-- A session that is enabled has its finder in front, whatever was in the list before. -/
theorem ownFinders_begins {b : Beginning} (h : b.session.enabled = true) (i : Installation) :
    (i.call (.begins b)).hooks.ownFinders = [(0, b.finder)] := by
  simp only [call, start, h, if_true]
  exact Hooks.ownFinders_register i.hooks b.finder

/-- A session that is not enabled leaves the list as it is. -/
theorem hooks_begins {b : Beginning} (h : b.session.enabled = false) (i : Installation) :
    (i.call (.begins b)).hooks = i.hooks := by
  simp [call, start, h]

/-- The end of a session that is enabled takes all finders of this kind out, and without one the
list stays as it is. -/
theorem ownFinders_ends (i : Installation) :
    (i.call .ends).hooks.ownFinders =
      if i.session.any (·.enabled) then [] else i.hooks.ownFinders := by
  simp only [call, stop]
  split
  · exact Hooks.ownFinders_unregister i.hooks
  · rfl

/-- The list agrees after a call that leaves an enabled session, and else exactly if there is no
finder of this kind in it. -/
theorem agrees_call_iff (i : Installation) (c : HookCall) :
    (i.call c).Agrees c ↔ (c.enables = false → (i.call c).hooks.ownFinders = []) := by
  constructor
  · intro h hnot
    by_contra hlisted
    have henables := h.enables_iff.mp hlisted
    rw [hnot] at henables
    cases henables
  · intro h
    cases henables : c.enables with
    | false =>
        have hnone := h henables
        refine ⟨session_call i c, ?_, by simp [hnone]⟩
        rw [exists_enabled_iff (session_call i c), henables, hnone]
        simp
    | true =>
        cases c with
        | ends => simp [HookCall.enables, HookCall.session?] at henables
        | begins b =>
            -- Beginning the session has taken out all finders of this kind but its own.
            have hfinders := ownFinders_begins (b := b) henables i
            refine ⟨rfl, ?_, ?_⟩
            · rw [exists_enabled_iff (session_call i _), henables, hfinders]
              simp
            · rw [hfinders]
              rintro entry hentry b' ⟨⟩
              rw [List.mem_singleton.mp hentry]

/-- That the list agrees with the session after each of these calls. -/
def AgreesThroughout (ids : List Nat) (calls : List HookCall) : Prop :=
  ∀ before c, before ++ [c] <+: calls → ((fresh ids).callAll (before ++ [c])).Agrees c

theorem agreesThroughout_append {ids : List Nat} {calls : List HookCall} {c : HookCall} :
    AgreesThroughout ids (calls ++ [c]) ↔
      AgreesThroughout ids calls ∧ ((fresh ids).callAll (calls ++ [c])).Agrees c := by
  constructor
  · intro h
    exact ⟨fun before c' hc' => h before c' (hc'.trans (List.prefix_append calls [c])),
      h calls c (List.prefix_refl _)⟩
  · rintro ⟨h, hlast⟩ before c' hc'
    obtain heq | hprefix := List.prefix_concat_iff.mp hc'
    · obtain ⟨rfl, hsame⟩ := List.append_inj' heq rfl
      obtain rfl := List.singleton_inj.mp hsame
      exact hlast
    · exact h before c' hprefix

/-- While the list agrees with the session, a finder is in it exactly if the last call has left a
session that is enabled. -/
theorem ownFinders_callAll_eq_nil {ids : List Nat} {calls : List HookCall}
    (h : AgreesThroughout ids calls) :
    ((fresh ids).callAll calls).hooks.ownFinders = [] ↔
      ∀ c ∈ calls.getLast?, c.enables = false := by
  cases calls using List.reverseRecOn with
  | nil =>
      have hnone : ((fresh ids).callAll []).hooks.ownFinders = [] := Hooks.ownFinders_ofForeign ids
      simp [hnone]
  | append_singleton calls c =>
      have hc := (agreesThroughout_append.mp h).2.enables_iff
      simpa [← not_iff_not (a := _ = []), ← Bool.not_eq_false] using hc

/-- **When the list agrees with the session after every call.**  This is so exactly if no session
that is not enabled begins right after one that is. -/
theorem agrees_after_calls_iff (ids : List Nat) (calls : List HookCall) :
    AgreesThroughout ids calls ↔ calls.IsChain HookCall.Admits := by
  induction calls using List.reverseRecOn with
  | nil => simp [AgreesThroughout]
  | append_singleton calls c ih =>
      rw [List.isChain_append, ← ih, agreesThroughout_append]
      refine and_congr_right fun hbefore => ?_
      simp only [List.isChain_singleton, true_and, List.head?_cons, Option.mem_some_iff]
      have hlast := ownFinders_callAll_eq_nil hbefore
      rw [callAll_append, agrees_call_iff]
      cases c with
      | begins b =>
          cases henabled : b.session.enabled with
          | true => simp [HookCall.enables, HookCall.session?, HookCall.Admits, henabled]
          | false =>
              -- The list stays as it is, so that nothing may have been in it before.
              simp [HookCall.enables, HookCall.session?, HookCall.Admits, henabled,
                hooks_begins henabled, hlast]
      | ends =>
          have hnone : ((fresh ids).callAll calls).session.any (·.enabled) = false →
              ((fresh ids).callAll calls).hooks.ownFinders = [] := fun hsession => by
            rw [hlast]
            rintro c hc
            obtain ⟨before, rfl⟩ := List.getLast?_eq_some_iff.mp hc
            rwa [callAll_append, session_call] at hsession
          simpa [HookCall.Admits, ownFinders_ends] using fun _ => hnone

/-- A session of a project without settings, which is enabled if the command line says so. -/
def birdhouseBeginning (enabled : Bool) : Beginning where
  disk := ⟨[], []⟩
  project := ⟨.slash, ["birdhouse"]⟩
  options := ⟨enabled, none, false⟩
  session := ⟨enabled, [⟨.slash, ["birdhouse"]⟩], [], false⟩
  read_eq := by cases enabled <;> rfl

/-- Sessions that follow one another agree with the list, enabled or not. -/
theorem agrees_after_calls_iff_birdhouse :
    AgreesThroughout []
      [.begins (birdhouseBeginning true), .ends, .begins (birdhouseBeginning false), .ends] := by
  refine (agrees_after_calls_iff [] _).mpr ?_
  simp [HookCall.Admits, HookCall.enables, HookCall.session?, birdhouseBeginning]

/-- A session that is not enabled begins within one that is: its finder stays in the list, and is
still there when both have ended. -/
theorem not_agrees_after_nested :
    ¬ AgreesThroughout []
        [.begins (birdhouseBeginning true), .begins (birdhouseBeginning false)] ∧
      ((fresh []).callAll [.begins (birdhouseBeginning true),
        .begins (birdhouseBeginning false), .ends, .ends]).hooks.ownFinders ≠ [] := by
  constructor
  · intro h
    have hinner := h [.begins (birdhouseBeginning true)] (.begins (birdhouseBeginning false))
      (List.prefix_refl _)
    have henables := hinner.enables_iff.mp (List.cons_ne_nil _ _)
    simp [HookCall.enables, HookCall.session?, birdhouseBeginning] at henables
  · exact List.cons_ne_nil _ _

end Installation

end Standin
