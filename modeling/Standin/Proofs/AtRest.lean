/-
What is left to do after everything was undone.

Undoing everything visits one registry after another, and the visits get in each other's way: what a
space reads in the end may depend on their order.  The records do not.  A visit with nothing in its
way clears what its registry has replaced and what it has saved for the names that may be assigned
again, and looks at no other record (`undo_undone`).  So a registry that was visited is at rest
(`Registry.AtRest`), and stays so however many others are visited after it.

A registry at rest has nothing to write: visiting it is no event and leaves the world as it is
(`undo_of_atRest`).  Hence it is enough that all registries of a second round were in the first one,
in whatever order and however often (`undoAll_atRest`).
-/
import Standin.Proofs.Accepted
import Standin.Proofs.Declined
import Standin.Proofs.Writes

set_option autoImplicit false

namespace Standin

namespace Registry

/-- That a registry has nothing to put back: nothing is replaced, and nothing is saved for a name
that may be assigned again. -/
structure AtRest (r : Registry) : Prop where
  replaced : r.replaced = []
  unsaved : ∀ name ∈ r.mutables, r.savedOf name = []

/-- `r'` is `r` with everything undone.  What is saved for a name that may not be assigned again
stays. -/
structure Undone (r r' : Registry) : Prop where
  record : ∃ saved, r' = { r with replaced := [], saved := saved }
  saved : ∀ name, r'.savedOf name = if name ∈ r.mutables then [] else r.savedOf name

namespace Undone

variable {r r' r'' : Registry}

theorem mutables (h : Undone r r') : r'.mutables = r.mutables := by
  obtain ⟨saved, hrecord⟩ := h.record
  rw [hrecord]

theorem atRest (h : Undone r r') : r'.AtRest where
  replaced := by
    obtain ⟨saved, hrecord⟩ := h.record
    rw [hrecord]
  unsaved name hname := by
    rw [h.saved, if_pos (h.mutables ▸ hname)]

theorem trans (h : Undone r r') (h' : Undone r' r'') : Undone r r'' where
  record := by
    obtain ⟨saved, rfl⟩ := h.record
    exact h'.record
  saved name := by
    rw [h'.saved, h.mutables, h.saved]
    split <;> rfl

end Undone

end Registry

namespace World

variable {w : World} {id : RegistryId}

/-! ## Registries at rest -/

/-- **A registry at rest has nothing to undo**, and does nothing. -/
theorem undo_of_atRest (h : (w.registry id).AtRest) : w.undo id = (w, .ok ()) := by
  have hunmock : w.unmockAll id = (w, .ok ()) := by
    -- The empty record of replacements is put in the place of an empty one.
    have hsame : { w.registry id with replaced := [] } = w.registry id := by rw [← h.replaced]
    simp only [unmockAll, hsame, h.replaced, installAll, setRegistry_registry]
  rw [undo, hunmock]
  exact restoreEach_of_unsaved _ h.unsaved

theorem undoAll_of_atRest {ids : List RegistryId} (h : ∀ i ∈ ids, (w.registry i).AtRest) :
    undoAll ids w = (w, .ok ()) := by
  induction ids with
  | nil => rfl
  | cons i rest ih =>
      rw [undoAll, undo_of_atRest (h i List.mem_cons_self)]
      exact ih fun j hj => h j (List.mem_cons_of_mem i hj)

/-! ## Visits -/

/-- Nothing is saved for the names that were restored, if nothing was in the way.  The induction is
on the names, among which one may come again. -/
theorem savedOf_restoreEach {names : List String} {name : String}
    (hok : (restoreEach id names w).2 = .ok ()) (hname : name ∈ names) :
    ((restoreEach id names w).1.registry id).savedOf name = [] := by
  induction names generalizing w with
  | nil => cases hname
  | cons k rest ih =>
      -- Once nothing is saved for the first name, restoring the others does not change that.
      have hrest : ∀ w₁ : World, (w₁.registry id).savedOf k = [] →
          (restoreEach id rest w₁).2 = .ok () →
          ((restoreEach id rest w₁).1.registry id).savedOf name = [] := by
        intro w₁ hk hok₁
        by_cases hagain : name ∈ rest
        · exact ih hok₁ hagain
        · obtain rfl : name = k := (List.mem_cons.mp hname).resolve_right hagain
          rw [(restoreEach_effect id rest w₁).record.2 name hagain, hk]
      obtain ⟨hnone, hstep⟩ | ⟨oldest, w', obstacle, -, -, hstep⟩ | ⟨oldest, w', -, -, hstep⟩ :=
        restoreEach_cases w id k rest
      all_goals rw [hstep] at hok ⊢
      · exact hrest w hnone hok
      · cases hok
      · refine hrest _ ?_ hok
        rw [registry_setRegistry, if_pos rfl, Registry.savedOf_putSaved, if_pos rfl]

/-- **What a visit does to the records**, when nothing was in the way. -/
theorem undo_undone (hok : (w.undo id).2 = .ok ()) :
    (w.registry id).Undone ((w.undo id).1.registry id) ∧
      ∀ j, j ≠ id → (w.undo id).1.registry j = w.registry j := by
  unfold undo at hok ⊢
  generalize hunmock : w.unmockAll id = result at hok ⊢
  obtain ⟨w₁, e | ⟨⟩⟩ := result
  · cases hok
  · have hregistry : w₁.registry =
        (w.setRegistry id { w.registry id with replaced := [] }).registry := by
      have h := registry_unmockAll (congrArg Prod.snd hunmock)
      rw [hunmock] at h
      exact h
    have hrecord : w₁.registry id = { w.registry id with replaced := [] } := by
      rw [hregistry, registry_setRegistry, if_pos rfl]
    have heffect := restoreEach_effect id (w₁.registry id).mutables w₁
    refine ⟨⟨?_, fun name => ?_⟩, fun j hj => ?_⟩
    · obtain ⟨saved, hsaved⟩ := heffect.record.1
      refine ⟨saved, hsaved.trans ?_⟩
      rw [hrecord]
    · have hmutables : (w₁.registry id).mutables = (w.registry id).mutables := by rw [hrecord]
      by_cases hname : name ∈ (w.registry id).mutables
      · rw [if_pos hname]
        exact savedOf_restoreEach hok (hmutables ▸ hname)
      · rw [if_neg hname]
        refine (heffect.record.2 name (hmutables ▸ hname)).trans ?_
        rw [hrecord]
        rfl
    · refine (heffect.others j hj).trans ?_
      rw [hregistry, registry_setRegistry, if_neg hj]

/-- **What a round of visits does to the records**, when nothing was in the way.  The induction is
on the visits. -/
theorem undoAll_undone {ids : List RegistryId} (hok : (undoAll ids w).2 = .ok ()) (i : RegistryId) :
    (i ∈ ids → (w.registry i).Undone ((undoAll ids w).1.registry i)) ∧
      (i ∉ ids → (undoAll ids w).1.registry i = w.registry i) := by
  induction ids generalizing w with
  | nil => exact ⟨fun hi => absurd hi List.not_mem_nil, fun _ => rfl⟩
  | cons k rest ih =>
      have hvisit : (w.undo k).2 = .ok () → (w.registry k).Undone ((w.undo k).1.registry k) ∧
          ∀ j, j ≠ k → (w.undo k).1.registry j = w.registry j := undo_undone
      rw [undoAll] at hok ⊢
      generalize w.undo k = result at hok hvisit ⊢
      obtain ⟨w₁, e | ⟨⟩⟩ := result
      · cases hok
      · obtain ⟨hundone, hothers⟩ := hvisit rfl
        obtain ⟨hin, hout⟩ := ih hok
        dsimp only at hundone hothers ⊢
        refine ⟨fun hi => ?_, fun hi => ?_⟩
        · by_cases hik : i = k
          · subst hik
            -- A second visit of the same registry is one more undoing of an undone record.
            by_cases hagain : i ∈ rest
            · exact hundone.trans (hin hagain)
            · rw [hout hagain]
              exact hundone
          · rw [← hothers i hik]
            exact hin ((List.mem_cons.mp hi).resolve_left hik)
        · rw [hout fun h => hi (List.mem_cons_of_mem k h)]
          exact hothers i fun h => hi (h ▸ List.mem_cons_self)

/-- Undoing everything fails only where a name cannot be put back everywhere. -/
theorem blocked_of_undoAll {ids : List RegistryId} {f : Failure}
    (hfails : (undoAll ids w).2 = .error f) : ∃ obstacle, f = .blocked obstacle := by
  induction ids generalizing w with
  | nil => cases hfails
  | cons k rest ih =>
      have hvisit : (w.undo k).2 = .error f → ∃ obstacle, f = .blocked obstacle := by
        have hunmock := unmockAll_onlyBlocked w k f
        unfold undo
        generalize w.unmockAll k = result at hunmock ⊢
        obtain ⟨w₁, e | ⟨⟩⟩ := result
        · exact fun h => (hunmock h).imp fun _ => And.left
        · exact fun h => (restoreEach_onlyBlocked w₁ k _ f h).imp fun _ => And.left
      rw [undoAll] at hfails
      generalize w.undo k = result at hvisit hfails
      obtain ⟨w₁, e | ⟨⟩⟩ := result
      · exact hvisit hfails
      · exact ih hfails

/-- **Undoing everything twice.**  The registries of a list, of which several may write the same
cells, undo everything one after the other, and nothing is in the way of a write; nothing else is
asked of the world.  Then none of them has anything replaced, or saved for a name that may be
assigned again; what is saved for other names stays, and other registries keep their records.
Undoing everything once more, for these registries in any order, succeeds with the same world: it
writes nothing, which would be an event, and changes nothing. -/
theorem undoAll_atRest (w : World) (ids : List RegistryId)
    (hfree : isBlocked (undoAll ids w) = false) :
    let w' := (undoAll ids w).1
    (undoAll ids w).2 = .ok () ∧
      (∀ i ∈ ids, (w'.registry i).AtRest ∧ (w'.registry i).mutables = (w.registry i).mutables ∧
        ∀ name, name ∉ (w.registry i).mutables →
          (w'.registry i).savedOf name = (w.registry i).savedOf name) ∧
      (∀ i, i ∉ ids → w'.registry i = w.registry i) ∧
      ∀ ids', (∀ i ∈ ids', i ∈ ids) → undoAll ids' w' = (w', .ok ()) := by
  intro w'
  have hok : (undoAll ids w).2 = .ok () := by
    cases houtcome : (undoAll ids w).2 with
    | ok => rfl
    | error f =>
        obtain ⟨obstacle, rfl⟩ := blocked_of_undoAll houtcome
        rw [isBlocked, houtcome] at hfree
        cases hfree
  have hundone : ∀ i ∈ ids, (w.registry i).Undone (w'.registry i) := fun i =>
    (undoAll_undone hok i).1
  refine ⟨hok, fun i hi => ⟨(hundone i hi).atRest, (hundone i hi).mutables, fun name hname => ?_⟩,
    fun i => (undoAll_undone hok i).2, fun ids' hids => ?_⟩
  · rw [(hundone i hi).saved, if_neg hname]
  · exact undoAll_of_atRest fun i hi => (hundone i (hids i hi)).atRest

/-- The package's registry has recorded the stand-in of the module's, which is visited first, so
that the package keeps it.  A second round in the other order leaves it there all the same. -/
theorem undoAll_atRest_birdhouse :
    let w := performAll 1 [.mock "fetch" none]
      (performAll 0 [.save "helper", .mock "fetch" (some (.item 9 .resettable))] birdhouse)
    let w' := (undoAll [0, 1] w).1
    (w'.registry 0).AtRest ∧ (w'.registry 1).AtRest ∧ undoAll [1, 0] w' = (w', .ok ()) ∧
      w'.read 1 "fetch" = some (.held (.item 9 .resettable)) := by
  intro w w'
  obtain ⟨-, hrest, -, hagain⟩ := undoAll_atRest w [0, 1] (by decide +kernel)
  exact ⟨(hrest 0 (by decide)).1, (hrest 1 (by decide)).1, hagain [1, 0] (by decide),
    by decide +kernel⟩

end World

end Standin
