/-
When a registry declines an operation.

An operation on one name has something to ask for first: that the name is not mocked yet,
that it is, that it is bound somewhere, that something is saved for it.  `Declines` lists
what may be missing, an entry for each failure of the registry's own, and the one thing
that is not the registry's: a factory that makes no stand-in.

For each operation it is proved that it is declined, and nothing has been done, or else that
no entry applies and it fails, if at all, where something may have been done already: at a
space that refuses to be written, at a module whose own name is no text, so that the packages
around it cannot be looked for, or at a stand-in that fails to be reset (`perform_comes`).
The operations on all names have no entry.  They pass by what the single ones decline.
-/
import Standin.Proofs.RoundTrip

set_option autoImplicit false

namespace Standin

/-- Whether an operation resets stand-ins. -/
def Operation.resets : Operation → Bool
  | .reset _ | .resetAll => true
  | _ => false

/-- Whether a failure is the registry's own or the factory's, so that it comes before anything is
done. -/
def Failure.isPrior : Failure → Bool
  | .registry _ | .factory => true
  | .blocked _ | .reset _ => false

namespace World

/-! ## Names that are bound -/

/-- That a registry sees a value under a name: its module holds the name, or one of the aliases
reads it. -/
def Bound (w : World) (r : Registry) (name : String) : Prop :=
  (w.own r.home name).isSome ∨ ∃ s ∈ r.aliases, (w.read s name).isSome

theorem isSome_valueOf_iff {w : World} {r : Registry} {name : String} :
    (w.valueOf r name).isSome ↔ w.Bound r name := by
  unfold valueOf Bound readFirst
  cases w.own r.home name with
  | some o => simp
  | none => simp [List.findSome?_isSome_iff]

theorem valueOf_eq_none_iff {w : World} {r : Registry} {name : String} :
    w.valueOf r name = none ↔ ¬ w.Bound r name := by
  rw [← isSome_valueOf_iff, Option.not_isSome_iff_eq_none]

theorem bound_of_valueOf {w : World} {r : Registry} {name : String} {sight : Sight}
    (h : w.valueOf r name = some sight) : w.Bound r name :=
  isSome_valueOf_iff.mp (Option.isSome_of_eq_some h)

/-! ## What may be missing -/

/-- That a registry declines an operation, and with which failure. -/
inductive Declines (w : World) (r : Registry) : Operation → Failure → Prop where
  /-- A name is mocked once. -/
  | mocked {name : String} {standIn : Option Object} (h : r.isMocked name = true) :
    Declines w r (.mock name standIn) (.registry (.alreadyMocked name))
  /-- There is nothing to replace. -/
  | nothingToMock {name : String} {standIn : Option Object} (hfree : r.isMocked name = false)
    (h : ¬ w.Bound r name) : Declines w r (.mock name standIn) (.registry (w.unbound r name))
  /-- No stand-in is given, and the factory makes none. -/
  | noStandIn {name : String} (hfree : r.isMocked name = false) (hbound : w.Bound r name)
    (h : r.factory = .failing) : Declines w r (.mock name none) .factory
  | nothingToUnmock {name : String} (h : r.isMocked name = false) :
    Declines w r (.unmock name) (.registry (.notMocked name "unmocked"))
  | nothingToReset {name : String} (h : r.isMocked name = false) :
    Declines w r (.reset name) (.registry (.notMocked name "reset"))
  | nothingToSave {name : String} (h : ¬ w.Bound r name) :
    Declines w r (.save name) (.registry (w.unbound r name))
  /-- Whether the name is bound does not matter here. -/
  | nothingToRestore {name : String} (h : r.savedOf name = []) :
    Declines w r (.restore name) (.registry (.noRestorationPoint name))

namespace Declines

variable {w : World} {r : Registry} {op : Operation} {f f' : Failure}

theorem isPrior (h : w.Declines r op f) : f.isPrior = true := by
  cases h <;> rfl

/-- An operation is declined for one reason. -/
theorem unique (h : w.Declines r op f) (h' : w.Declines r op f') : f = f' := by
  -- Only for mocking is there more than one entry, and these exclude each other.
  cases h with
  | mocked h =>
      cases h' with
      | mocked => rfl
      | nothingToMock hfree | noStandIn hfree => simp [h] at hfree
  | nothingToMock hfree h =>
      cases h' with
      | mocked h' => simp [h'] at hfree
      | nothingToMock => rfl
      | noStandIn _ hbound => exact absurd hbound h
  | noStandIn hfree hbound =>
      cases h' with
      | mocked h' => simp [h'] at hfree
      | nothingToMock _ h' => exact absurd hbound h'
      | noStandIn => rfl
  | nothingToUnmock | nothingToReset | nothingToSave | nothingToRestore => cases h'; rfl

end Declines

/-- Nothing is missing for mocking a name that is free and bound, if there is a stand-in. -/
theorem not_declines_mock {w : World} {r : Registry} {name : String} {standIn : Option Object}
    (hfree : r.isMocked name = false) (hbound : w.Bound r name)
    (hmade : ¬ (standIn = none ∧ r.factory = .failing)) (f : Failure) :
    ¬ w.Declines r (.mock name standIn) f := by
  intro hf
  cases hf with
  | mocked h => simp [h] at hfree
  | nothingToMock _ h => exact h hbound
  | noStandIn _ _ h => exact hmade ⟨rfl, h⟩

/-! ## The single operations -/

/-- That two worlds differ in nothing but the number of the next new object. -/
def Untouched (w w' : World) : Prop := ∃ n, w' = { w with nextObject := n }

namespace Untouched

variable {w w' w'' : World}

theorem refl (w : World) : Untouched w w := ⟨w.nextObject, rfl⟩

theorem trans (h : Untouched w w') (h' : Untouched w' w'') : Untouched w w'' := by
  obtain ⟨n, rfl⟩ := h
  obtain ⟨n', rfl⟩ := h'
  exact ⟨n', rfl⟩

end Untouched

/-- Getting an object to read takes at most a number. -/
theorem take_untouched (w : World) (sight : Sight) : Untouched w (w.take sight).2 := by
  cases sight with
  | held o => exact .refl w
  | made function => exact ⟨w.nextObject + 1, rfl⟩

/-- **What getting a stand-in comes to**: the factory fails where one is needed, or there is one,
the given one if one is given. -/
theorem standInFor_cases (w : World) (factory : Factory) (standIn : Option Object) :
    (standIn = none ∧ factory = .failing) ∧
        w.standInFor factory standIn = (w, .error .factory) ∨
      ¬ (standIn = none ∧ factory = .failing) ∧ ∃ w' x, Untouched w w' ∧
        (∀ o ∈ standIn, x = o) ∧ w.standInFor factory standIn = (w', .ok x) := by
  cases standIn with
  | some o =>
      refine .inr ⟨by simp, w, o, .refl w, fun o' ho' => ?_, rfl⟩
      exact Option.mem_some.mp ho'
  | none =>
      have hnone : ∀ x : Object, ∀ o ∈ (none : Option Object), x = o := fun x o ho =>
        absurd ho (Option.not_mem_none o)
      cases factory with
      | fresh nature => exact .inr ⟨by simp, _, _, ⟨w.nextObject + 1, rfl⟩, hnone _, rfl⟩
      | always o => exact .inr ⟨by simp, w, o, .refl w, hnone o, rfl⟩
      | failing => exact .inl ⟨⟨rfl, rfl⟩, rfl⟩

section Outcomes

variable (w : World) (id : RegistryId) (name : String)

/-- **What mocking a name comes to.**  It is declined, and nothing has happened.  Or an object is
read under the name and recorded, and then the name is replaced by a stand-in, the given one if one
is given. -/
theorem mock_outcome (standIn : Option Object) :
    (∃ f w₀, w.Declines (w.registry id) (.mock name standIn) f ∧ Untouched w w₀ ∧
        w.mock id name standIn = (w₀, .error f)) ∨
      (∀ f, ¬ w.Declines (w.registry id) (.mock name standIn) f) ∧
        ∃ w₀ p x w' obstacle?, Untouched w w₀ ∧
          w.reading (w.registry id) name = some p ∧ (∀ o ∈ standIn, x = o) ∧
          (w₀.setRegistry id ((w.registry id).putReplaced name p)).install
            ((w.registry id).putReplaced name p) name x = (w', obstacle?) ∧
          w.mock id name standIn = (w', match obstacle? with
            | some obstacle => .error (.blocked obstacle)
            | none => .ok x) := by
  unfold mock
  dsimp only
  by_cases hmocked : (w.registry id).isMocked name = true
  · rw [if_pos hmocked]
    exact .inl ⟨_, w, .mocked hmocked, .refl w, rfl⟩
  · rw [if_neg hmocked]
    replace hmocked : (w.registry id).isMocked name = false := Bool.eq_false_iff.mpr hmocked
    cases hvalue : w.valueOf (w.registry id) name with
    | none =>
        have hunbound := valueOf_eq_none_iff.mp hvalue
        exact .inl ⟨_, w, .nothingToMock hmocked hunbound, .refl w, rfl⟩
    | some sight =>
        have hbound := bound_of_valueOf hvalue
        have hreading := reading_of_valueOf hvalue
        -- The object may have to be made first, which no space and no record shows.
        have htaken := take_untouched w sight
        dsimp only
        generalize w.take sight = taken at hreading htaken ⊢
        obtain ⟨p, w₁⟩ := taken
        dsimp only at hreading htaken ⊢
        obtain ⟨⟨rfl, hfactory⟩, hmade⟩ | ⟨hsome, w₂, x, hmade, hgiven, hstandIn⟩ :=
          standInFor_cases w₁ (w.registry id).factory standIn
        · rw [hmade]
          exact .inl ⟨_, w₁, .noStandIn hmocked hbound hfactory, htaken, rfl⟩
        · have hnot := not_declines_mock hmocked hbound hsome
          rw [hstandIn]
          dsimp only
          cases hinstall : (w₂.setRegistry id ((w.registry id).putReplaced name p)).install
              ((w.registry id).putReplaced name p) name x with
          | mk w' obstacle? =>
              refine .inr ⟨hnot, w₂, p, x, w', obstacle?, htaken.trans hmade, hreading, hgiven,
                hinstall, ?_⟩
              unfold Registry.putReplaced at hinstall
              rw [hinstall]
              cases obstacle? <;> rfl

end Outcomes

/-- That an operation fails only where a name could not be replaced everywhere, and that what was in
the way is there in the world as the operation left it. -/
def OnlyBlocked {α : Type} (r : Registry) (result : Result α) : Prop :=
  ∀ f, result.2 = .error f → ∃ obstacle, f = .blocked obstacle ∧ result.1.Blocks r obstacle

namespace OnlyBlocked

variable {α β : Type} {r r' : Registry} {w : World}

theorem ok (r : Registry) (w : World) (a : α) : OnlyBlocked r ((w, .ok a) : Result α) := by
  intro f hf
  cases hf

theorem blocked {obstacle : Obstacle} (h : w.Blocks r obstacle) :
    OnlyBlocked r ((w, .error (.blocked obstacle)) : Result α) := by
  intro f hf
  cases hf
  exact ⟨obstacle, rfl, h⟩

/-- Of the registry only its module matters. -/
theorem congr {result : Result α} (h : OnlyBlocked r' result) (hhome : r'.home = r.home) :
    OnlyBlocked r result := by
  intro f hf
  obtain ⟨obstacle, rfl, hblocks⟩ := h f hf
  refine ⟨obstacle, rfl, ?_⟩
  cases obstacle with
  | refused refusal => exact hblocks
  | misnamed o => exact (misnomer_congr (by rw [hhome])).trans hblocks

theorem map {outcome : Except Failure α} (h : OnlyBlocked r (w, outcome)) (g : α → β) :
    OnlyBlocked r (w, outcome.map g) := by
  intro f hf
  cases outcome with
  | ok a => cases hf
  | error e =>
      cases hf
      exact h f rfl

end OnlyBlocked

/-- What becomes of an operation: it is declined and nothing has been done, or nothing is missing
and it fails, if at all, where a name cannot be replaced everywhere or at a reset. -/
inductive Comes (w : World) (r : Registry) (op : Operation) : Result (Option Object) → Prop where
  | declined {f : Failure} {w₀ : World} (h : w.Declines r op f) (hw : Untouched w w₀) :
    Comes w r op (w₀, .error f)
  | tried {result : Result (Option Object)} (h : ∀ f, ¬ w.Declines r op f)
    (hfails : ∀ f, result.2 = .error f →
      (∃ obstacle, f = .blocked obstacle ∧ result.1.Blocks r obstacle) ∨
        op.resets = true ∧ ∃ o, f = .reset o) :
    Comes w r op result

theorem Comes.of_onlyBlocked {w : World} {r : Registry} {op : Operation}
    {result : Result (Option Object)} (h : ∀ f, ¬ w.Declines r op f)
    (honly : OnlyBlocked r result) : Comes w r op result :=
  .tried h fun f hf => .inl (honly f hf)

/-- An operation without an answer fails with what it fails with. -/
theorem of_silent_eq_error {result : Result Unit} {f : Failure}
    (h : (silent result).2 = .error f) : result.2 = .error f := by
  obtain ⟨w', e | answer⟩ := result
  · cases h
    rfl
  · cases h

section Comes

variable (w : World) (id : RegistryId)

theorem restoreEach_onlyBlocked (names : List String) :
    OnlyBlocked (w.registry id) (restoreEach id names w) := by
  induction names generalizing w with
  | nil => exact .ok _ w ()
  | cons name rest ih =>
      obtain ⟨-, hstep⟩ | ⟨oldest, w', obstacle, -, hinstall, hstep⟩ |
        ⟨oldest, w', -, -, hstep⟩ := restoreEach_cases w id name rest
      all_goals rw [hstep]
      · exact ih w
      · exact .blocked (blocks_of_install hinstall)
      · -- The record for the rest is about the same module.
        refine (ih _).congr ?_
        rw [registry_setRegistry, if_pos rfl]
        rfl

theorem installAll_blocks {r : Registry} {table : Table Object} {w w' : World}
    {obstacle : Obstacle} (h : installAll r table w = (w', some obstacle)) :
    w'.Blocks r obstacle := by
  induction table generalizing w with
  | nil => cases h
  | cons entry rest ih =>
      rw [installAll] at h
      split at h
      · exact ih h
      · rename_i hinstall
        cases h
        exact blocks_of_install hinstall

theorem unmockAll_onlyBlocked : OnlyBlocked (w.registry id) (w.unmockAll id) := by
  obtain ⟨w', obstacle, hinstall, hunmock⟩ | ⟨w', -, hunmock⟩ := unmockAll_cases w id
  all_goals rw [hunmock]
  · exact .blocked (installAll_blocks hinstall)
  · exact .ok _ _ ()

/-- Resetting what is read under a name fails where the object does. -/
theorem resetValue_fails {r : Registry} {name : String} {f : Failure}
    (h : (w.resetValue r name).2 = .error f) : ∃ o, f = .reset o := by
  unfold resetValue at h
  split at h
  · cases h
  · cases h
  · rename_i o _
    unfold resetObject at h
    split at h
    · dsimp only at h
      split at h
      · cases h
        exact ⟨o, rfl⟩
      · cases h
    · cases h

theorem resetEach_fails {r : Registry} {names : List String} {f : Failure}
    (h : (resetEach r names w).2 = .error f) : ∃ o, f = .reset o := by
  induction names generalizing w with
  | nil => cases h
  | cons name rest ih =>
      rw [resetEach] at h
      split at h
      · exact ih _ h
      · rename_i w' e hreset
        cases h
        exact resetValue_fails w (congrArg Prod.snd hreset)

theorem mock_comes (name : String) (standIn : Option Object) :
    Comes w (w.registry id) (.mock name standIn) (w.perform id (.mock name standIn)) := by
  show Comes w _ _ (answering (w.mock id name standIn))
  obtain ⟨f, w₀, hdeclines, hw, hmock⟩ |
    ⟨hnot, w₀, p, x, w', obstacle?, -, -, -, hinstall, hmock⟩ := mock_outcome w id name standIn
  all_goals rw [hmock]
  · exact .declined hdeclines hw
  · refine .of_onlyBlocked hnot ?_
    cases obstacle? with
    | some obstacle => exact .blocked (blocks_of_install hinstall)
    | none => exact .ok _ w' (some x)

theorem unmock_comes (name : String) :
    Comes w (w.registry id) (.unmock name) (w.perform id (.unmock name)) := by
  show Comes w _ _ (answering (w.unmock id name))
  obtain ⟨hmocked, hunmock⟩ | ⟨p, w', obstacle?, hmocked, hinstall, hunmock⟩ :=
    unmock_cases w id name
  all_goals rw [hunmock]
  · exact .declined (.nothingToUnmock (isMocked_eq_false_iff.mpr hmocked)) (.refl w)
  · refine .of_onlyBlocked (fun f hf => ?_) ?_
    · cases hf with
      | nothingToUnmock h => exact Option.some_ne_none p (hmocked.symm.trans
          (isMocked_eq_false_iff.mp h))
    · cases obstacle? with
      | some obstacle => exact .blocked (blocks_of_install hinstall)
      | none => exact .ok _ _ (some p)

theorem reset_comes (name : String) :
    Comes w (w.registry id) (.reset name) (w.perform id (.reset name)) := by
  show Comes w _ _ (silent (w.reset id name))
  unfold reset
  dsimp only
  by_cases hmocked : (w.registry id).isMocked name = true
  · rw [if_pos hmocked]
    refine .tried (fun f hf => ?_) fun f hf => .inr ⟨rfl, ?_⟩
    · cases hf with
      | nothingToReset h => simp [h] at hmocked
    · exact resetValue_fails w (of_silent_eq_error hf)
  · rw [if_neg hmocked]
    exact .declined (.nothingToReset (Bool.eq_false_iff.mpr hmocked)) (.refl w)

theorem save_comes (name : String) :
    Comes w (w.registry id) (.save name) (w.perform id (.save name)) := by
  show Comes w _ _ (answering (w.save id name))
  obtain ⟨hvalue, hsave⟩ | ⟨sight, hvalue, hsave⟩ := save_cases w id name
  all_goals rw [hsave]
  · exact .declined (.nothingToSave (valueOf_eq_none_iff.mp hvalue)) (.refl w)
  · refine .of_onlyBlocked (fun f hf => ?_) (.ok _ _ _)
    cases hf with
    | nothingToSave h => exact h (bound_of_valueOf hvalue)

theorem restore_comes (name : String) :
    Comes w (w.registry id) (.restore name) (w.perform id (.restore name)) := by
  show Comes w _ _ (answering (w.restore id name))
  obtain ⟨hstack, hrestore⟩ | ⟨o, rest, w', obstacle?, hstack, hinstall, hrestore⟩ :=
    restore_cases w id name
  all_goals rw [hrestore]
  · exact .declined (.nothingToRestore hstack) (.refl w)
  · refine .of_onlyBlocked (fun f hf => ?_) ?_
    · cases hf with
      | nothingToRestore h => simp [h] at hstack
    · cases obstacle? with
      | some obstacle => exact .blocked (blocks_of_install hinstall)
      | none => exact .ok _ w' (some o)

/-- **What becomes of an operation.**  The operations on one name are told apart above; for those on
all names no entry says that they are declined. -/
theorem perform_comes (op : Operation) : Comes w (w.registry id) op (w.perform id op) := by
  cases op with
  | mock name standIn => exact mock_comes w id name standIn
  | unmock name => exact unmock_comes w id name
  | unmockAll =>
      refine .of_onlyBlocked (fun f hf => nomatch hf) ?_
      exact (unmockAll_onlyBlocked w id).map fun _ => none
  | reset name => exact reset_comes w id name
  | resetAll =>
      refine .tried (fun f hf => nomatch hf) fun f hf => .inr ⟨rfl, ?_⟩
      exact resetEach_fails w (of_silent_eq_error hf)
  | save name => exact save_comes w id name
  | restore name => exact restore_comes w id name
  | saveAll => exact .of_onlyBlocked (fun f hf => nomatch hf) (.ok _ _ none)
  | restoreAll =>
      refine .of_onlyBlocked (fun f hf => nomatch hf) ?_
      exact (restoreEach_onlyBlocked w id (w.registry id).mutables).map fun _ => none
  | addAlias s => exact .of_onlyBlocked (fun f hf => nomatch hf) (.ok _ _ none)

end Comes

/-- **When an operation is declined.**  In any world, so in every one that a run of operations and
of changes by modules has led to, an operation fails with one of the registry's own failures, or
with that of the factory, exactly if `Declines` has an entry for it: a name is mocked that is mocked
already, or else is bound neither in the module nor in an alias, or else finds a factory that fails;
a name is unmocked or reset that is not mocked; a name is saved that is not bound; a name is
restored for which nothing is saved.  The operations on all names are never declined.  Then nothing
has happened: all that spaces hold, all that registries have on record, the loaded modules and the
events are as before.  Apart from the resets, no operation fails otherwise than where a name cannot
be replaced everywhere: at a space that refuses, or when the packages around the module cannot be
looked for, and then the module is not named. -/
theorem perform_declined_iff (w : World) (id : RegistryId) (op : Operation) :
    let result := w.perform id op
    (∀ f, w.Declines (w.registry id) op f ↔ result.2 = .error f ∧ f.isPrior = true) ∧
      (∀ f, w.Declines (w.registry id) op f → ∃ n, result.1 = { w with nextObject := n }) ∧
      (op.resets = false → ∀ f, result.2 = .error f →
        w.Declines (w.registry id) op f ∨
          ∃ obstacle, f = .blocked obstacle ∧ result.1.Blocks (w.registry id) obstacle) := by
  intro result
  have hcomes : Comes w (w.registry id) op result := perform_comes w id op
  generalize result = result at hcomes
  cases hcomes with
  | @declined f w₀ h hw =>
      refine ⟨fun f' => ⟨fun h' => ?_, fun h' => ?_⟩, fun _ _ => hw, fun _ f' hf' => .inl ?_⟩
      · rw [h'.unique h]
        exact ⟨rfl, h.isPrior⟩
      · cases h'.1
        exact h
      · cases hf'
        exact h
  | tried h hfails =>
      refine ⟨fun f => ⟨fun hf => absurd hf (h f), fun hf => ?_⟩, fun f hf => absurd hf (h f),
        fun hresets f hf => ?_⟩
      · -- What the operation may fail with comes later.
        obtain ⟨obstacle, rfl, -⟩ | ⟨-, o, rfl⟩ := hfails f hf.1
        · cases hf.2
        · cases hf.2
      · refine (hfails f hf).elim .inr fun hreset => ?_
        rw [hresets] at hreset
        cases hreset.1

/-- The function is mocked and another name is taken away.  Then the function is not mocked again,
the other name is not saved, and the package's registry has nothing to restore; spaces and records
stay as they are. -/
theorem perform_declined_iff_birdhouse :
    let w := actAll [.operate 0 (.mock "fetch" none), .drop 0 "helper"] birdhouse
    let again := w.perform 0 (.mock "fetch" none)
    again.2 = .error (.registry (.alreadyMocked "fetch")) ∧ again.1.space = w.space ∧
      again.1.registry = w.registry ∧
      (w.perform 0 (.save "helper")).2 =
        .error (.registry (.unknownBinding "helper" (some (.item 0 (.text "birdhouse.core"))))) ∧
      (w.perform 1 (.restore "fetch")).2 = .error (.registry (.noRestorationPoint "fetch")) := by
  intro w again
  obtain ⟨hfails, hsame, -⟩ := perform_declined_iff w 0 (.mock "fetch" none)
  have hmocked : w.Declines (w.registry 0) (.mock "fetch" none)
      (.registry (.alreadyMocked "fetch")) := .mocked (by decide +kernel)
  have hunbound : ¬ w.Bound (w.registry 0) "helper" := by
    rw [← isSome_valueOf_iff]
    decide +kernel
  have hsave := ((perform_declined_iff w 0 (.save "helper")).1 _).mp (.nothingToSave hunbound)
  have hrestore := ((perform_declined_iff w 1 (.restore "fetch")).1 _).mp
    (.nothingToRestore (by decide +kernel))
  have hmodule : w.own (w.registry 0).home nameKey = some (.item 0 (.text "birdhouse.core")) := by
    decide +kernel
  obtain ⟨n, hn⟩ := hsame _ hmocked
  have hagain : again.1 = { w with nextObject := n } := hn
  refine ⟨((hfails _).mp hmocked).1, by rw [hagain], by rw [hagain], ?_, hrestore.1⟩
  rw [← hmodule]
  exact hsave.1

/-- So not every failure after an operation was not declined is that of a space: the packages around
a module cannot be looked for once code has put a number in the place of its name. -/
theorem not_declined_or_refused :
    ¬ ∀ (actions : List Action) (id : RegistryId) (op : Operation), op.resets = false →
      let w := actAll actions birdhouse
      ∀ f, (w.perform id op).2 = .error f →
        w.Declines (w.registry id) op f ∨ ∃ refusal, f = .blocked (.refused refusal) := by
  intro h
  have hfailed := h [.put 0 nameKey (.item 9 .scalar)] 0 (.mock "fetch" none) rfl
    (.blocked (.misnamed (.item 9 .scalar))) rfl
  obtain hdeclines | ⟨refusal, hrefusal⟩ := hfailed
  · exact absurd hdeclines.isPrior Bool.false_ne_true
  · cases hrefusal

end World

end Standin
