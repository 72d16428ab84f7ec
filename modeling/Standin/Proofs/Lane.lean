/-
One name of a world at a time.

Mocking a name and undoing everything stay within their names, so that a world is looked
at as its `Lane`s: of each name, what the spaces read under it and what the registries
have recorded for it.  A lane is mocked and undone by two small functions of its own,
and where the spaces accept and nothing is saved these are what the operations do to
every lane of a world (`lane_mock`, `lane_undo`).  Unmocking a name undoes its lane alone
(`lane_unmock`).  What holds of all runs can then be
proved for lanes, where there is neither a table nor a failure.
-/
import Standin.Proofs.Accepted

set_option autoImplicit false

namespace Standin

/-- The spaces that a registry may write. -/
structure Circle where
  home : SpaceId
  aliases : List SpaceId
  packages : List SpaceId

/-- What there is of one name: the spaces of each registry, what each space reads under the name,
and what each registry has recorded for it. -/
@[ext] structure Lane where
  circle : RegistryId → Circle
  sight : SpaceId → Option Sight
  original : RegistryId → Option Object

namespace Lane

/-- The spaces that get the new object when a registry replaces the one that its module holds. -/
def Follows (a : Lane) (i : RegistryId) (previous : Object) (s : SpaceId) : Prop :=
  s = (a.circle i).home ∨
    (s ∈ (a.circle i).aliases ∨ previous.isScalar = false ∧ s ∈ (a.circle i).packages) ∧
      a.sight s = some (.held previous)

instance (a : Lane) (i : RegistryId) (previous : Object) (s : SpaceId) :
    Decidable (a.Follows i previous s) :=
  inferInstanceAs (Decidable (_ ∨ _))

/-- The lane after a registry has replaced an object by another and changed its record. -/
def replace (a : Lane) (i : RegistryId) (previous value : Object) (original? : Option Object) :
    Lane where
  circle := a.circle
  sight s := if a.Follows i previous s then some (.held value) else a.sight s
  original j := if j = i then original? else a.original j

@[simp] theorem circle_replace (a : Lane) (i : RegistryId) (previous value : Object)
    (original? : Option Object) : (a.replace i previous value original?).circle = a.circle := rfl

@[simp] theorem sight_replace (a : Lane) (i : RegistryId) (previous value : Object)
    (original? : Option Object) (s : SpaceId) :
    (a.replace i previous value original?).sight s =
      if a.Follows i previous s then some (.held value) else a.sight s := rfl

@[simp] theorem original_replace (a : Lane) (i : RegistryId) (previous value : Object)
    (original? : Option Object) (j : RegistryId) :
    (a.replace i previous value original?).original j =
      if j = i then original? else a.original j := rfl

/-- The lane after a registry was asked to mock the name. -/
def mock (a : Lane) (i : RegistryId) (x : Object) : Lane :=
  match a.original i, a.sight (a.circle i).home with
  | none, some (.held p) => a.replace i p x (some p)
  | _, _ => a

/-- The lane after a registry has undone everything. -/
def undo (a : Lane) (i : RegistryId) : Lane :=
  match a.original i, a.sight (a.circle i).home with
  | some p, some (.held q) => a.replace i q p none
  | _, _ => a

/-- The lane after some registries have undone everything, one after the other. -/
def undoAll (ids : List RegistryId) (a : Lane) : Lane := ids.foldl undo a

section

variable {a : Lane} {i : RegistryId} {p q x : Object}

theorem mock_of_free (horiginal : a.original i = none)
    (hsight : a.sight (a.circle i).home = some (.held p)) :
    a.mock i x = a.replace i p x (some p) := by
  unfold mock
  rw [horiginal, hsight]

theorem mock_of_mocked (horiginal : a.original i = some p) : a.mock i x = a := by
  unfold mock
  rw [horiginal]

theorem undo_of_mocked (horiginal : a.original i = some p)
    (hsight : a.sight (a.circle i).home = some (.held q)) : a.undo i = a.replace i q p none := by
  unfold undo
  rw [horiginal, hsight]

theorem undo_of_free (horiginal : a.original i = none) : a.undo i = a := by
  unfold undo
  rw [horiginal]

end

section Replace

variable {a : Lane} {i : RegistryId} {previous value : Object} {original? : Option Object}
  {s : SpaceId}

/-- The spaces that follow read the object that is replaced. -/
theorem sight_of_follows (hsight : a.sight (a.circle i).home = some (.held previous))
    (h : a.Follows i previous s) : a.sight s = some (.held previous) := by
  rcases h with rfl | ⟨-, hread⟩
  · exact hsight
  · exact hread

/-- A space that reads anything else is left alone. -/
theorem sight_replace_of_ne (hsight : a.sight (a.circle i).home = some (.held previous))
    (hne : a.sight s ≠ some (.held previous)) :
    (a.replace i previous value original?).sight s = a.sight s := by
  rw [sight_replace, if_neg fun h => hne (sight_of_follows hsight h)]

theorem sight_replace_home :
    (a.replace i previous value original?).sight (a.circle i).home = some (.held value) := by
  rw [sight_replace, if_pos (.inl rfl)]

end Replace

/-- That a registry may write a space. -/
def Reaches (a : Lane) (i : RegistryId) (s : SpaceId) : Prop :=
  s = (a.circle i).home ∨ s ∈ (a.circle i).aliases ∨ s ∈ (a.circle i).packages

/-- All spaces that may be written follow an object that is no scalar, if they read it. -/
theorem follows_of_reaches {a : Lane} {i : RegistryId} {x : Object} {s : SpaceId}
    (hx : x.isScalar = false) (hreaches : a.Reaches i s) (hread : a.sight s = some (.held x)) :
    a.Follows i x s := by
  rcases hreaches with hhome | halias | hpackage
  · exact .inl hhome
  · exact .inr ⟨.inl halias, hread⟩
  · exact .inr ⟨.inr ⟨hx, hpackage⟩, hread⟩

theorem reaches_of_follows {a : Lane} {i : RegistryId} {p : Object} {s : SpaceId}
    (h : a.Follows i p s) : a.Reaches i s := by
  rcases h with hhome | ⟨halias | ⟨-, hpackage⟩, -⟩
  · exact .inl hhome
  · exact .inr (.inl halias)
  · exact .inr (.inr hpackage)

section Step

variable {a : Lane} {i j : RegistryId} {x y : Object} {s : SpaceId}

@[simp] theorem circle_mock (a : Lane) (i : RegistryId) (x : Object) :
    (a.mock i x).circle = a.circle := by
  unfold mock
  split <;> rfl

@[simp] theorem circle_undo (a : Lane) (i : RegistryId) : (a.undo i).circle = a.circle := by
  unfold undo
  split <;> rfl

/-- What is recorded stays recorded while names are mocked. -/
theorem original_mock {p : Object} (horiginal : a.original j = some p) (i : RegistryId)
    (x : Object) : (a.mock i x).original j = some p := by
  unfold mock
  split
  · rename_i hfree _
    have hne : j ≠ i := by
      intro h
      rw [h, hfree] at horiginal
      cases horiginal
    rw [original_replace, if_neg hne]
    exact horiginal
  · exact horiginal

/-- Undoing clears at most the registry's own record. -/
theorem original_undo_of_ne (h : j ≠ i) : (a.undo i).original j = a.original j := by
  unfold undo
  split
  · rw [original_replace, if_neg h]
  · rfl

/-- Where a registry has recorded something for a space that holds an object, undoing clears it. -/
theorem original_undo {q : Object} (hsight : a.sight (a.circle i).home = some (.held q)) :
    (a.undo i).original i = none := by
  cases horiginal : a.original i with
  | none =>
      rw [undo_of_free horiginal]
      exact horiginal
  | some p =>
      rw [undo_of_mocked horiginal hsight, original_replace, if_pos rfl]

/-- Mocking shows nothing new but the stand-in. -/
theorem sight_mock_ne (hunseen : a.sight s ≠ some (.held y)) (hne : x ≠ y) :
    (a.mock i x).sight s ≠ some (.held y) := by
  unfold mock
  split
  · rw [sight_replace]
    split
    · intro h
      injection h with h
      injection h with h
      exact hne h
    · exact hunseen
  · exact hunseen

/-- A space that reads an object goes on to read one. -/
theorem held_undo (h : ∃ q, a.sight s = some (.held q)) (i : RegistryId) :
    ∃ q, (a.undo i).sight s = some (.held q) := by
  unfold undo
  split
  · rename_i p _ _ _
    rw [sight_replace]
    split
    · exact ⟨p, rfl⟩
    · exact h
  · exact h

end Step

end Lane

namespace World

/-- The spaces that a registry may write, by their parts. -/
def circle (w : World) (i : RegistryId) : Circle :=
  ⟨(w.registry i).home, (w.registry i).aliases, w.ancestors (w.registry i)⟩

/-- What there is of a name in a world. -/
def lane (w : World) (name : String) : Lane where
  circle := w.circle
  sight s := w.read s name
  original i := (w.registry i).replaced.get? name

/-- A lane is known by what a world shows of the name. -/
theorem lane_eq {w : World} {name : String} {a : Lane} (hcircle : w.circle = a.circle)
    (hsight : ∀ s, w.read s name = a.sight s)
    (horiginal : ∀ i, (w.registry i).replaced.get? name = a.original i) : w.lane name = a := by
  unfold lane
  rw [hcircle, funext hsight, funext horiginal]

section Record

variable {w w' : World} {i : RegistryId} {r : Registry}

/-- The spaces of all registries stay the same, when the module's own name is spared and the record
of one registry changes otherwise than in its spaces. -/
theorem circle_eq_of_record {P : String → Prop} (h : Within P w w') (hkey : ¬ P nameKey)
    (hrecord : ∀ j, w'.registry j = if j = i then r else w.registry j)
    (hhome : r.home = (w.registry i).home) (haliases : r.aliases = (w.registry i).aliases) :
    w'.circle = w.circle := by
  funext j
  have hspaces : (w'.registry j).home = (w.registry j).home ∧
      (w'.registry j).aliases = (w.registry j).aliases := by
    rw [hrecord j]
    split
    · rename_i hj
      rw [hj]
      exact ⟨hhome, haliases⟩
    · exact ⟨rfl, rfl⟩
  unfold circle
  rw [hspaces.1, hspaces.2, h.ancestors hkey hspaces.1]

theorem original_eq_of_record (hrecord : ∀ j, w'.registry j = if j = i then r else w.registry j)
    (name : String) (j : RegistryId) : (w'.registry j).replaced.get? name =
      if j = i then r.replaced.get? name else (w.lane name).original j := by
  rw [hrecord j]
  split <;> rfl

end Record

/-- In a module that holds the name, the same spaces follow. -/
theorem follows_lane_iff {w : World} {i : RegistryId} {name : String} {p : Object}
    (hown : w.own (w.registry i).home name = some p) (s : SpaceId) :
    (w.lane name).Follows i p s ↔ w.Follows (w.registry i) name s :=
  (follows_of_own hown s).symm

/-! ## Worlds with mocked names -/

/-- Some registries are ready, have nothing saved, and have mocked names of their modules only. -/
structure Staged (ids : List RegistryId) (w : World) : Prop where
  ready : ∀ i ∈ ids, Ready w i
  unsaved : ∀ i ∈ ids, ∀ name, (w.registry i).savedOf name = []
  held : ∀ i ∈ ids, ∀ name, ((w.registry i).replaced.get? name).isSome →
    (w.own (w.registry i).home name).isSome

/-- A change of one of the registries has only this one to look at. -/
theorem Staged.of_effect {ids : List RegistryId} {w w' : World} {i : RegistryId}
    {P : String → Prop} {R : Registry → Registry → Prop} (h : Staged ids w)
    (heffect : Effect i P R w w') (hkey : ¬ P nameKey) (hready : Ready w' i)
    (hunsaved : ∀ name, (w'.registry i).savedOf name = [])
    (hheld : ∀ name, ((w'.registry i).replaced.get? name).isSome →
      (w'.own (w'.registry i).home name).isSome) : Staged ids w' := by
  refine ⟨fun j hj => ?_, fun j hj name => ?_, fun j hj name hmocked => ?_⟩ <;>
    -- Each part is asked of the registry that changes, and of any other one, which is as before.
    by_cases hji : j = i
  · rw [hji]
    exact hready
  · exact (h.ready j hj).of_within heffect.toWithin hkey (heffect.others j hji)
  · rw [hji]
    exact hunsaved name
  · rw [heffect.others j hji]
    exact h.unsaved j hj name
  · rw [hji] at hmocked ⊢
    exact hheld name hmocked
  · rw [heffect.others j hji] at hmocked ⊢
    exact heffect.kept _ _ (h.held j hj name hmocked)

/-! ## Mocking and unmocking -/

/-- **A name that is replaced, with its record, is replaced in its lane**, and every other lane is
left alone. -/
theorem lane_replace {w w' : World} {i : RegistryId} {name : String} {p value : Object}
    {r : Registry} (hname : name ≠ nameKey) (hown : w.own (w.registry i).home name = some p)
    (hwithin : Within (· = name) w w')
    (hread : ∀ s, w'.read s name =
      if w.Follows (w.registry i) name s then some (.held value) else w.read s name)
    (hrecord : ∀ j, w'.registry j = if j = i then r else w.registry j)
    (hhome : r.home = (w.registry i).home) (haliases : r.aliases = (w.registry i).aliases)
    (hothers : ∀ other, other ≠ name →
      r.replaced.get? other = (w.registry i).replaced.get? other) (other : String) :
    w'.lane other =
      if other = name then (w.lane other).replace i p value (r.replaced.get? other)
      else w.lane other := by
  have hcircle : w'.circle = w.circle :=
    circle_eq_of_record hwithin hname.symm hrecord hhome haliases
  by_cases hother : other = name
  · subst hother
    rw [if_pos rfl]
    refine lane_eq hcircle (fun s => ?_) fun j => ?_
    · rw [Lane.sight_replace, hread s]
      exact ite_congr (propext (follows_lane_iff hown s).symm) (fun _ => rfl) fun _ => rfl
    · rw [original_eq_of_record hrecord, Lane.original_replace]
  · -- Any other name is outside the write and the record.
    rw [if_neg hother]
    refine lane_eq hcircle (fun s => hwithin.read s hother) fun j => ?_
    rw [original_eq_of_record hrecord]
    by_cases hj : j = i
    · rw [if_pos hj, hj]
      exact hothers other hother
    · rw [if_neg hj]

/-- **Mocking a name of a module mocks its lane** and leaves every other lane alone. -/
theorem lane_mock {w : World} {i : RegistryId} {name : String} {p : Object} (x : Object)
    (hname : name ≠ nameKey) (hnamed : w.Named (w.registry i))
    (hown : w.own (w.registry i).home name = some p)
    (haccept : ∀ s, w.Follows (w.registry i) name s → w.Accepts s) (other : String) :
    (w.mock i name (some x)).1.lane other =
      if other = name then (w.lane other).mock i x else w.lane other := by
  cases horiginal : (w.registry i).replaced.get? name with
  | some q =>
      -- The world refuses, and so does the lane.
      rw [mock_of_mocked horiginal]
      by_cases hother : other = name
      · subst hother
        rw [if_pos rfl]
        exact (Lane.mock_of_mocked horiginal).symm
      · rw [if_neg hother]
  | none =>
      obtain ⟨w', hmock, hwrote⟩ := mock_accepted (some x) hname hnamed hown horiginal rfl haccept
      have hwithin := (mock_effect w i name (some x)).toWithin
      rw [hmock] at hwithin
      have hrecord : ∀ j, w'.registry j =
          if j = i then (w.registry i).putReplaced name p else w.registry j := by
        intro j
        rw [hwrote.registry, registry_setRegistry]
      rw [hmock, lane_replace hname hown hwithin hwrote.read_eq hrecord rfl rfl
        (fun other hother => Table.get?_put_other _ _ hother) other]
      by_cases hother : other = name
      · subst hother
        have hsight : (w.lane other).sight ((w.lane other).circle i).home = some (.held p) :=
          read_of_own hown
        have hput : ((w.registry i).putReplaced other p).replaced.get? other = some p :=
          Table.get?_put_self _ _ _
        rw [if_pos rfl, if_pos rfl, hput, Lane.mock_of_free horiginal hsight]
      · rw [if_neg hother, if_neg hother]

/-- **Unmocking a name of a module undoes its lane** and leaves every other lane alone. -/
theorem lane_unmock {w : World} {i : RegistryId} {name : String} {p : Object}
    (hname : name ≠ nameKey) (hnamed : w.Named (w.registry i))
    (hown : (w.own (w.registry i).home name).isSome)
    (hmocked : (w.registry i).replaced.get? name = some p)
    (haccept : ∀ s, w.Follows (w.registry i) name s → w.Accepts s) (other : String) :
    (w.unmock i name).1.lane other =
      if other = name then (w.lane other).undo i else w.lane other := by
  obtain ⟨q, hq⟩ := Option.isSome_iff_exists.mp hown
  obtain ⟨w', hunmock, hwrote⟩ := unmock_accepted hname hnamed hmocked haccept
  have hwithin := (unmock_effect w i name).toWithin
  rw [hunmock] at hwithin ⊢
  have hrecord : ∀ j, (w'.setRegistry i ((w.registry i).dropReplaced name)).registry j =
      if j = i then (w.registry i).dropReplaced name else w.registry j := by
    intro j
    rw [registry_setRegistry, hwrote.registry]
  have hdrop : ∀ other, ((w.registry i).dropReplaced name).replaced.get? other =
      if other = name then none else (w.registry i).replaced.get? other :=
    Table.get?_drop _ _
  rw [lane_replace hname hq hwithin hwrote.read_eq hrecord rfl rfl
    (fun other hother => (hdrop other).trans (if_neg hother)) other]
  by_cases hother : other = name
  · subst hother
    have hsight : (w.lane other).sight ((w.lane other).circle i).home = some (.held q) :=
      read_of_own hq
    rw [if_pos rfl, if_pos rfl, hdrop, if_pos rfl, Lane.undo_of_mocked hmocked hsight]
  · rw [if_neg hother, if_neg hother]

/-- Mocking a name of a module keeps the registries as they have to be. -/
theorem Staged.mock {ids : List RegistryId} {w : World} {i : RegistryId} {name : String}
    (h : Staged ids w) (hi : i ∈ ids) (hname : name ≠ nameKey)
    (hlocal : (w.own (w.registry i).home name).isSome) (standIn : Option Object) :
    Staged ids (w.mock i name standIn).1 := by
  have heffect := mock_effect w i name standIn
  have hkey : nameKey ∉ Operation.touches (w.registry i) (.mock name standIn) := fun hc =>
    hname (List.mem_singleton.mp hc).symm
  have hready : Ready (w.mock i name standIn).1 i := (h.ready i hi).perform hkey fun s hs =>
    absurd hs (Option.not_mem_none s)
  obtain ⟨-, -, hhome, -⟩ := heffect.record.constant
  refine h.of_effect heffect hname.symm hready (fun other => ?_) fun other hmocked => ?_
  · have hrecord := heffect.record
    generalize (w.mock i name standIn).1.registry i = r at hrecord ⊢
    cases hrecord with
    | same | mock => exact h.unsaved i hi other
  · rw [hhome]
    refine heffect.kept _ _ ?_
    by_cases hother : other = name
    · rw [hother]
      exact hlocal
    · have hnot : other ∉ Operation.writes (w.registry i) (.mock name standIn) := fun hc =>
        hother (List.mem_singleton.mp hc)
      rw [heffect.record.get?_replaced hnot] at hmocked
      exact h.held i hi other hmocked

/-! ## Undoing everything -/

/-- Without anything saved, undoing everything undoes the replacements. -/
theorem Staged.undo_eq {ids : List RegistryId} {w : World} {i : RegistryId} (h : Staged ids w)
    (hi : i ∈ ids) : w.undo i = w.unmockAll i := by
  obtain ⟨hok, hregistry, -⟩ := unmockAll_accepted (h.ready i hi)
  have hunsaved : ∀ name, ((w.unmockAll i).1.registry i).savedOf name = [] := by
    intro name
    rw [hregistry]
    exact h.unsaved i hi name
  rw [World.undo_eq (h.ready i hi)]
  unfold restoreAll
  rw [restoreEach_of_unsaved _ fun name _ => hunsaved name, ← hok]

/-- What undoing everything does where the registries are as they have to be: the record of
replacements is empty, and each name comes out as if it alone had been written. -/
theorem Staged.undo_outcome {ids : List RegistryId} {w : World} {i : RegistryId}
    (h : Staged ids w) (hi : i ∈ ids) :
    Effect i (· ∈ (w.registry i).replaced.names) (RecordStep .unmockAll) w (w.undo i).1 ∧
      (∀ j, (w.undo i).1.registry j =
        if j = i then { w.registry i with replaced := [] } else w.registry j) ∧
      ∀ name s, (w.undo i).1.own s name =
        w.ownAfter (w.registry i) name ((w.registry i).replaced.get? name) s := by
  obtain ⟨-, hregistry, hown⟩ := unmockAll_accepted (h.ready i hi)
  have heffect := unmockAll_effect w i
  rw [h.undo_eq hi]
  refine ⟨heffect, fun j => ?_, hown⟩
  by_cases hj : j = i
  · rw [if_pos hj, hj]
    exact hregistry
  · rw [if_neg hj]
    exact heffect.others j hj

/-- Where an object is recorded, the spaces that follow read it after the undoing, and the others
what they read before. -/
theorem Staged.sight_undo {ids : List RegistryId} {w : World} {i : RegistryId}
    (h : Staged ids w) (hi : i ∈ ids) {name : String} {p q : Object}
    (horiginal : (w.registry i).replaced.get? name = some p)
    (hq : w.own (w.registry i).home name = some q) (s : SpaceId) :
    (w.undo i).1.read s name = ((w.lane name).replace i q p none).sight s := by
  obtain ⟨heffect, -, hown⟩ := h.undo_outcome hi
  have hfollows := follows_lane_iff hq s
  have hs := hown name s
  rw [horiginal] at hs
  unfold ownAfter at hs
  dsimp only at hs
  rw [Lane.sight_replace]
  by_cases hc : w.Follows (w.registry i) name s
  · rw [if_pos hc] at hs
    rw [if_pos (hfollows.mpr hc)]
    exact read_of_own hs
  · rw [if_neg hc] at hs
    rw [if_neg fun hc' => hc (hfollows.mp hc')]
    exact read_congr hs (heffect.inherited s)

/-- **Undoing everything undoes every lane.** -/
theorem Staged.lane_undo {ids : List RegistryId} {w : World} {i : RegistryId} (h : Staged ids w)
    (hi : i ∈ ids) (name : String) : (w.undo i).1.lane name = (w.lane name).undo i := by
  obtain ⟨heffect, hrecord, hown⟩ := h.undo_outcome hi
  have hcircle : (w.undo i).1.circle = w.circle :=
    circle_eq_of_record heffect.toWithin (h.ready i hi).nameKey_not_replaced hrecord rfl rfl
  cases horiginal : (w.registry i).replaced.get? name with
  | none =>
      have hnone : (w.lane name).original i = none := horiginal
      rw [Lane.undo_of_free hnone]
      refine lane_eq hcircle (fun s => ?_) fun j => ?_
      · refine read_congr ?_ (heffect.inherited s)
        rw [hown, horiginal]
        rfl
      · rw [original_eq_of_record hrecord]
        by_cases hj : j = i
        · rw [if_pos hj, hj, hnone]
          rfl
        · rw [if_neg hj]
  | some p =>
      -- What is recorded was read in the module, which still holds the name.
      have hsome : (w.lane name).original i = some p := horiginal
      obtain ⟨q, hq⟩ := Option.isSome_iff_exists.mp
        (h.held i hi name (Option.isSome_of_eq_some horiginal))
      have hsight : (w.lane name).sight ((w.lane name).circle i).home = some (.held q) :=
        read_of_own hq
      rw [Lane.undo_of_mocked hsome hsight]
      refine lane_eq hcircle (h.sight_undo hi horiginal hq) fun j => ?_
      rw [original_eq_of_record hrecord, Lane.original_replace]
      rfl

theorem Staged.undo {ids : List RegistryId} {w : World} {i : RegistryId} (h : Staged ids w)
    (hi : i ∈ ids) : Staged ids (w.undo i).1 := by
  have hready := (h.ready i hi).unmockAll
  rw [← h.undo_eq hi] at hready
  obtain ⟨heffect, hrecord, -⟩ := h.undo_outcome hi
  have hkey := (h.ready i hi).nameKey_not_replaced
  have hregistry := (hrecord i).trans (if_pos rfl)
  refine h.of_effect heffect hkey hready (fun name => ?_) fun name hmocked => ?_
  · rw [hregistry]
    exact h.unsaved i hi name
  · rw [hregistry] at hmocked
    exact absurd hmocked Bool.false_ne_true

end World

end Standin
