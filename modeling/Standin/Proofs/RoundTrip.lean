/-
Mocking a name and putting its object back.

A stand-in that is read nowhere marks the spaces that were written: as long as no one
writes the name, the spaces that read the stand-in are the ones that followed the
module when it was mocked.  When the name is unmocked these are the spaces that hold
what the module holds, so that they, and no others, get the old object again.  Other
operations of the registry may come in between, for they stay within other names
(`unmock_after_run`).

The packages around the module are an exception.  They are written unless the object
to be replaced is a scalar, and when a name is unmocked that object is the stand-in.
Packages that were given a scalar keep it (`unmock_mock`).
-/
import Standin.Proofs.Accepted

set_option autoImplicit false

namespace Standin.World

/-! ## What is read in the end -/

section PuttingBack

variable {w w₁ w₂ : World} {id : RegistryId} {name : String} {p x : Object} {A : SpaceId → Prop}

/-- `w₁` is `w` after a name that the module holds was mocked. -/
structure Mocked (w w₁ : World) (id : RegistryId) (name : String) (p x : Object) : Prop where
  name_ne : name ≠ nameKey
  own : w.own (w.registry id).home name = some p
  wrote : Wrote (w.setRegistry id ((w.registry id).putReplaced name p)) w₁ name x
    (w.Follows (w.registry id) name)

/-- `w₂` is reached from `w₁` by writes of the registry that spare a name and the module's own
name. -/
abbrev Spared (w₁ w₂ : World) (id : RegistryId) (name : String) (A : SpaceId → Prop) : Prop :=
  Confined id (fun n => n ≠ name ∧ n ≠ nameKey) A w₁ w₂

theorem Mocked.registry_eq (h : Mocked w w₁ id name p x) :
    w₁.registry id = (w.registry id).putReplaced name p :=
  h.wrote.recorded

theorem Mocked.home_eq (h : Mocked w w₁ id name p x) :
    (w₁.registry id).home = (w.registry id).home := by
  rw [h.registry_eq]
  rfl

theorem Mocked.aliases_eq (h : Mocked w w₁ id name p x) :
    (w₁.registry id).aliases = (w.registry id).aliases := by
  rw [h.registry_eq]
  rfl

theorem Mocked.ancestors_eq (h : Mocked w w₁ id name p x) :
    w₁.ancestors (w₁.registry id) = w.ancestors (w.registry id) :=
  h.wrote.ancestors h.name_ne.symm h.home_eq

theorem Spared.read_eq (h : Spared w₁ w₂ id name A) (s : SpaceId) :
    w₂.read s name = w₁.read s name :=
  h.read s fun hne => hne.1 rfl

theorem Spared.ancestors_eq (h : Spared w₁ w₂ id name A) :
    w₂.ancestors (w₂.registry id) = w₁.ancestors (w₁.registry id) :=
  Confined.ancestors_eq h fun hne => hne.2 rfl

/-- The spaces the registry may write in the end are those of the start and the new aliases. -/
theorem mem_targets_of_spared (hmock : Mocked w w₁ id name p x) (hrun : Spared w₁ w₂ id name A)
    {s : SpaceId} (hs : s ∈ w₂.targets (w₂.registry id)) : s ∈ w.targets (w.registry id) ∨ A s := by
  rcases hrun.mem_targets (fun hne => hne.2 rfl) hs with hs | hs
  · unfold targets at hs ⊢
    rw [hmock.home_eq, hmock.aliases_eq, hmock.ancestors_eq] at hs
    exact .inl hs
  · exact .inr hs

/-- The spaces that were given the stand-in are those that read it now, among those that did not
read it before. -/
theorem read_eq_stand_in_iff (hmock : Mocked w w₁ id name p x) (hrun : Spared w₁ w₂ id name A)
    {s : SpaceId} (hfresh : w.read s name ≠ some (.held x)) :
    w₂.read s name = some (.held x) ↔ w.Follows (w.registry id) name s := by
  rw [Spared.read_eq hrun]
  exact hmock.wrote.read_eq_held_iff hfresh

/-- The module holds the stand-in until the name is unmocked. -/
theorem own_home_of_mocked (hmock : Mocked w w₁ id name p x) (hrun : Spared w₁ w₂ id name A) :
    w₂.own (w₂.registry id).home name = some x := by
  rw [hrun.home, hmock.home_eq, hrun.own _ _ fun hne => hne.1 rfl]
  exact hmock.wrote.gets _ ((follows_of_own hmock.own _).mpr (.inl rfl))

/-- The spaces that follow when the name is unmocked: those that were given the stand-in, without
the packages if it is a scalar. -/
theorem follows_of_mocked_iff (hmock : Mocked w w₁ id name p x) (hrun : Spared w₁ w₂ id name A)
    (hfresh : ∀ s ∈ w₂.targets (w₂.registry id), w.read s name ≠ some (.held x)) (s : SpaceId) :
    w₂.Follows (w₂.registry id) name s ↔ w.Follows (w.registry id) name s ∧
      ¬ (x.isScalar = true ∧ s ≠ (w.registry id).home ∧ s ∉ (w₂.registry id).aliases) := by
  have hhome : (w₂.registry id).home = (w.registry id).home := hrun.home.trans hmock.home_eq
  have hpackages : w₂.ancestors (w₂.registry id) = w.ancestors (w.registry id) :=
    (Spared.ancestors_eq hrun).trans hmock.ancestors_eq
  have hfollows := follows_of_own (own_home_of_mocked hmock hrun) s
  constructor
  · intro hback
    refine ⟨(read_eq_stand_in_iff hmock hrun (hfresh s (mem_targets_of_follows hback))).mp ?_, ?_⟩
    · exact read_of_follows (own_home_of_mocked hmock hrun) hback
    · rintro ⟨hscalar, hs, halias⟩
      rcases hfollows.mp hback with hs' | ⟨halias' | ⟨hx, -⟩, -⟩
      · exact hs (hs'.trans hhome)
      · exact halias halias'
      · rw [hx] at hscalar
        cases hscalar
  · rintro ⟨hgiven, hnot⟩
    have hread : w₂.read s name = some (.held x) := by
      rw [Spared.read_eq hrun]
      exact hmock.wrote.read_of hgiven
    rw [hfollows, hhome, hpackages]
    by_cases hs : s = (w.registry id).home
    · exact .inl hs
    · refine .inr ⟨?_, hread⟩
      by_cases halias : s ∈ (w₂.registry id).aliases
      · exact .inl halias
      · have hx : x.isScalar = false :=
          Bool.eq_false_iff.mpr fun hscalar => hnot ⟨hscalar, hs, halias⟩
        -- An alias of the start is one still, so that this space followed as a package.
        rcases (follows_of_own hmock.own s).mp hgiven with hs' | ⟨halias' | ⟨-, hpackage⟩, -⟩
        · exact absurd hs' hs
        · refine absurd (hrun.aliases s ?_) halias
          rw [hmock.aliases_eq]
          exact halias'
        · exact .inr ⟨hx, hpackage⟩

/-- **Unmocking a name that was spared since it was mocked.**  The module's object is returned, the
name is not mocked any more, and all spaces read what they read at the start, except those packages
that were given a scalar as packages only. -/
theorem unmock_of_spared (hmock : Mocked w w₁ id name p x) (hrun : Spared w₁ w₂ id name A)
    (hnamed : w.Named (w.registry id))
    (haccept : ∀ s, s ∈ w.targets (w.registry id) ∨ A s → w.Accepts s)
    (hfresh : ∀ s, s ∈ w.targets (w.registry id) ∨ A s → w.read s name ≠ some (.held x)) :
    (w₂.unmock id name).2 = .ok p ∧
      ((w₂.unmock id name).1.registry id).isMocked name = false ∧
      ∀ s, (w₂.unmock id name).1.read s name =
        if w.Follows (w.registry id) name s ∧ x.isScalar = true ∧ s ≠ (w.registry id).home ∧
            s ∉ (w₂.registry id).aliases then some (.held x)
        else w.read s name := by
  have hmocked : (w₂.registry id).replaced.get? name = some p := by
    rw [hrun.original name fun hne => hne.1 rfl, hmock.registry_eq]
    exact Table.get?_put_self _ _ _
  -- Neither the mocking nor what came after it has written the module's own name.
  have hnamed₁ : w₁.Named (w₁.registry id) :=
    hmock.wrote.named hmock.name_ne.symm hmock.home_eq hnamed
  have hnamed₂ : w₂.Named (w₂.registry id) := hrun.named (fun hne => hne.2 rfl) hrun.home hnamed₁
  obtain ⟨w₃, hunmock, hwrote⟩ := unmock_accepted hmock.name_ne hnamed₂ hmocked fun s hs =>
    hrun.accepts (hmock.wrote.accepts
      (haccept s (mem_targets_of_spared hmock hrun (mem_targets_of_follows hs))))
  have hback := follows_of_mocked_iff hmock hrun fun s hs =>
    hfresh s (mem_targets_of_spared hmock hrun hs)
  rw [hunmock]
  refine ⟨rfl, ?_, fun s => ?_⟩
  · rw [registry_setRegistry, if_pos rfl]
    simp [Registry.isMocked, Registry.dropReplaced, Table.has, Table.get?_drop]
  · rw [read_setRegistry]
    by_cases hgiven : w.Follows (w.registry id) name s
    · split <;> rename_i hstale
      · rw [hwrote.read_of_not fun hc => ((hback s).mp hc).2 hstale.2, Spared.read_eq hrun]
        exact hmock.wrote.read_of hgiven
      · rw [hwrote.read_of ((hback s).mpr ⟨hgiven, fun hc => hstale ⟨hgiven, hc⟩⟩)]
        -- Only spaces that read the module's object were given the stand-in.
        exact (read_of_follows hmock.own hgiven).symm
    · rw [if_neg fun hc => hgiven hc.1, hwrote.read_of_not fun hc => hgiven ((hback s).mp hc).1,
        Spared.read_eq hrun]
      exact hmock.wrote.read_of_not hgiven

end PuttingBack

/-! ## Nothing in between -/

/-- A function. -/
def fetch : Object := .item 1 .function

/-- A package, space 1, that offers a function of its module, space 0, and a space 2 that has got
the function too.  Registry 0 is that of the module, registry 1 that of the package. -/
def birdhouse : World where
  space s :=
    match s with
    | 0 => ⟨[("__name__", .item 0 (.text "birdhouse.core")), ("fetch", fetch),
        ("helper", .item 2 .function)], [], none⟩
    | 1 => ⟨[("__name__", .item 3 (.text "birdhouse")), ("fetch", fetch)], [], none⟩
    | 2 => ⟨[("fetch", fetch)], [], none⟩
    | _ => .empty
  loaded := [("birdhouse", some 1), ("birdhouse.core", some 0)]
  registry id := .new ["fetch", "helper"] ["fetch", "helper"] id (.fresh .resettable)
  nextObject := 4
  events := []

/-- Objects with a number of 4 or above are new there. -/
theorem read_birdhouse_ne {k : Nat} (hk : 4 ≤ k) (nature : Nature) (s : SpaceId) (name : String) :
    birdhouse.read s name ≠ some (.held (.item k nature)) := by
  intro hread
  unfold read Space.get? birdhouse at hread
  match s with
  | 0 | 1 | 2 | _ + 3 => grind [Table.get?, fetch, Space.empty]

/-- The same after the module's own name was made a number. -/
def misnamedBirdhouse : World := birdhouse.put 0 nameKey (.item 9 .scalar)

/-- There the number is one more object. -/
theorem read_misnamedBirdhouse_ne {k : Nat} (hk : 4 ≤ k) (hnumber : k ≠ 9) (nature : Nature)
    (s : SpaceId) (name : String) :
    misnamedBirdhouse.read s name ≠ some (.held (.item k nature)) := by
  unfold misnamedBirdhouse
  rw [read_put]
  split
  · simp [hnumber.symm]
  · exact read_birdhouse_ne hk nature s name

/-- **Mocking a name and unmocking it at once.**  In a module that is named, an object that is no
scalar is replaced by any object that no target reads under the name.  If the stand-in is a scalar,
the packages that read the old object and are neither an alias nor the module's own space read the
stand-in from then on.  All
else reads as before. -/
theorem unmock_mock (w : World) (id : RegistryId) (name : String) (p x : Object)
    (hname : name ≠ nameKey) (hnamed : w.Named (w.registry id))
    (hown : w.own (w.registry id).home name = some p)
    (hfree : (w.registry id).isMocked name = false) (hp : p.isScalar = false)
    (haccept : ∀ s ∈ w.targets (w.registry id), w.Accepts s)
    (hfresh : ∀ s ∈ w.targets (w.registry id), w.read s name ≠ some (.held x)) :
    (w.mock id name (some x)).2 = .ok x ∧
      let w' := (w.mock id name (some x)).1.unmock id name
      w'.2 = .ok p ∧ (w'.1.registry id).isMocked name = false ∧
        ∀ s, w'.1.read s name =
          if x.isScalar = true ∧ s ∈ w.ancestors (w.registry id) ∧ s ≠ (w.registry id).home ∧
              s ∉ (w.registry id).aliases ∧ w.read s name = some (.held p) then some (.held x)
          else w.read s name := by
  obtain ⟨w₁, hmock, hwrote⟩ := mock_accepted (some x) hname hnamed hown
    (isMocked_eq_false_iff.mp hfree) rfl fun s hs =>
      haccept s (mem_targets_of_follows hs)
  have hmocked : Mocked w w₁ id name p x := ⟨hname, hown, hwrote⟩
  obtain ⟨hanswer, hfree', hread⟩ := unmock_of_spared hmocked
    (Confined.refl id _ (fun _ => False) w₁) hnamed
    (fun s hs => haccept s (hs.resolve_right not_false))
    fun s hs => hfresh s (hs.resolve_right not_false)
  rw [hmock]
  refine ⟨rfl, hanswer, hfree', fun s => ?_⟩
  have hfollows := follows_of_own hown s
  rw [hread s, hmocked.aliases_eq]
  refine ite_congr (propext ⟨?_, ?_⟩) (fun _ => rfl) fun _ => rfl
  · rintro ⟨hs, hx, hhome, halias⟩
    obtain ⟨hmem, hsight⟩ := (hfollows.mp hs).resolve_left hhome
    exact ⟨hx, (hmem.resolve_left halias).2, hhome, halias, hsight⟩
  · rintro ⟨hx, hpackage, hhome, halias, hsight⟩
    exact ⟨hfollows.mpr (.inr ⟨.inr ⟨hp, hpackage⟩, hsight⟩), hx, hhome, halias⟩

/-- In the package the function is lost for good when nothing stood in for it. -/
theorem unmock_mock_birdhouse :
    (birdhouse.mock 0 "fetch" (some .nothing)).2 = .ok .nothing ∧
      let w' := (birdhouse.mock 0 "fetch" (some .nothing)).1.unmock 0 "fetch"
      w'.2 = .ok fetch ∧ w'.1.read 0 "fetch" = some (.held fetch) ∧
        w'.1.read 1 "fetch" = some (.held .nothing) := by
  obtain ⟨hmock, hunmock, -, hread⟩ := unmock_mock birdhouse 0 "fetch" fetch .nothing (by decide)
    (by decide) (by decide) (by decide) (by decide) (by decide +kernel) (by decide +kernel)
  refine ⟨hmock, hunmock, (hread 0).trans ?_, (hread 1).trans ?_⟩ <;> decide +kernel

/-- So a name does not always read as before when it is unmocked at once. -/
theorem not_read_unmock_mock :
    ¬ ∀ (w : World) (id : RegistryId) (name : String) (p x : Object), name ≠ nameKey →
      w.Named (w.registry id) → w.own (w.registry id).home name = some p →
      (w.registry id).isMocked name = false → p.isScalar = false →
      (∀ s ∈ w.targets (w.registry id), w.Accepts s) →
      (∀ s ∈ w.targets (w.registry id), w.read s name ≠ some (.held x)) →
      ∀ s ∈ w.targets (w.registry id),
        ((w.mock id name (some x)).1.unmock id name).1.read s name = w.read s name := by
  intro h
  have hpackage := h birdhouse 0 "fetch" fetch .nothing (by decide) (by decide) (by decide)
    (by decide) (by decide) (by decide +kernel) (by decide +kernel) 1 (by decide +kernel)
  exact absurd hpackage (by decide +kernel)

/-! ## Other operations in between -/

/-- The spaces that a registry may write in a run of operations: those it may write at the start,
and those that the run adds to its aliases. -/
def targetsDuring (w : World) (id : RegistryId) (ops : List Operation) : List SpaceId :=
  w.targets (w.registry id) ++ ops.filterMap Operation.alias?

/-- **Mocking, other operations, unmocking.**  A name that a named module holds is mocked by an
object that is no scalar and that no space in question reads under the name; then the registry
performs any operations that write neither the name nor the module's own name; then the name is
unmocked.  The module's object is returned, the name is not mocked any more, and every space
whatever reads as before under the name. -/
theorem unmock_after_run (w : World) (id : RegistryId) (name : String) (p x : Object)
    (ops : List Operation) (hname : name ≠ nameKey) (hnamed : w.Named (w.registry id))
    (hown : w.own (w.registry id).home name = some p)
    (hfree : (w.registry id).isMocked name = false) (hx : x.isScalar = false)
    (haccept : ∀ s ∈ w.targetsDuring id ops, w.Accepts s)
    (hfresh : ∀ s ∈ w.targetsDuring id ops, w.read s name ≠ some (.held x))
    (hops : ∀ op ∈ ops, op ≠ .unmockAll ∧ name ∉ op.writes (w.registry id) ∧
      nameKey ∉ op.writes (w.registry id)) :
    (w.mock id name (some x)).2 = .ok x ∧
      let w' := (performAll id ops (w.mock id name (some x)).1).unmock id name
      w'.2 = .ok p ∧ (w'.1.registry id).isMocked name = false ∧
        ∀ s, w'.1.read s name = w.read s name := by
  have hduring : ∀ s, s ∈ w.targets (w.registry id) ∨ s ∈ ops.filterMap Operation.alias? →
      s ∈ w.targetsDuring id ops := fun s hs => List.mem_append.mpr hs
  obtain ⟨w₁, hmock, hwrote⟩ := mock_accepted (some x) hname hnamed hown
    (isMocked_eq_false_iff.mp hfree) rfl fun s hs =>
      haccept s (hduring s (.inl (mem_targets_of_follows hs)))
  have hmocked : Mocked w w₁ id name p x := ⟨hname, hown, hwrote⟩
  have hrun : Spared w₁ (performAll id ops w₁) id name (· ∈ ops.filterMap Operation.alias?) := by
    refine performAll_confined ops w₁ fun op hop => ?_
    obtain ⟨hnot, hwrites, hkey⟩ := hops op hop
    refine ⟨hnot, fun n hn => ?_, fun s hs => List.mem_filterMap.mpr ⟨op, hop, hs⟩⟩
    have hmutables : ((w.registry id).putReplaced name p).mutables = (w.registry id).mutables := rfl
    rw [hmocked.registry_eq, Operation.writes_congr hmutables hnot] at hn
    exact ⟨fun h => hwrites (h ▸ hn), fun h => hkey (h ▸ hn)⟩
  obtain ⟨hanswer, hfree', hread⟩ := unmock_of_spared hmocked hrun hnamed
    (fun s hs => haccept s (hduring s hs)) fun s hs => hfresh s (hduring s hs)
  rw [hmock]
  refine ⟨rfl, hanswer, hfree', fun s => ?_⟩
  rw [hread s, if_neg]
  rintro ⟨-, hscalar, -⟩
  rw [hx] at hscalar
  cases hscalar

/-- The function comes back in the package too when space 2 was made an alias meanwhile, another
name was mocked and unmocked, and the stand-in was saved. -/
theorem unmock_after_run_birdhouse :
    let standIn : Object := .item 9 .resettable
    let mocked := birdhouse.mock 0 "fetch" (some standIn)
    let w' := (performAll 0 [.addAlias 2, .mock "helper" none, .save "fetch", .resetAll,
      .unmock "helper"] mocked.1).unmock 0 "fetch"
    mocked.2 = .ok standIn ∧ mocked.1.read 1 "fetch" = some (.held standIn) ∧ w'.2 = .ok fetch ∧
      w'.1.read 0 "fetch" = some (.held fetch) ∧ w'.1.read 1 "fetch" = some (.held fetch) := by
  obtain ⟨hmock, hunmock, -, hread⟩ := unmock_after_run birdhouse 0 "fetch" fetch
    (.item 9 .resettable)
    [.addAlias 2, .mock "helper" none, .save "fetch", .resetAll, .unmock "helper"] (by decide)
    (by decide) (by decide) (by decide) (by decide) (by decide +kernel) (by decide +kernel)
    (by decide)
  refine ⟨hmock, ?_, hunmock, (hread 0).trans ?_, (hread 1).trans ?_⟩ <;> decide +kernel

end Standin.World
