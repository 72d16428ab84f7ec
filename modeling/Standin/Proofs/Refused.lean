/-
Writes that are refused half-way.

A registry puts an object in one space after another, and ends at the first that refuses
(`install_handed`).  What it recorded before, it does not take back.  A mock or a restoring
that is refused is therefore half done (`refused_halfway`), and not undone by itself.

But a mock can be undone in a module that is named.  What it wrote is what reads the stand-in, if
that was read nowhere before, and it accepts; so unmocking meets no space that refuses, and gives
every space its object back (`unmock_attempted`).  Where the packages around the module cannot be
looked for, unmocking gets no further than the mock.
-/
import Standin.Proofs.Declined
import Standin.Proofs.Writes

set_option autoImplicit false

namespace Standin.World

/-! ## Mocking and restoring up to the first refusal -/

/-- A name that is bound and not mocked can be given a stand-in. -/
theorem not_declines_given {w : World} {r : Registry} {name : String} {x : Object}
    (hfree : r.isMocked name = false) (hbound : w.Bound r name) (f : Failure) :
    ¬ w.Declines r (.mock name (some x)) f :=
  not_declines_mock hfree hbound (fun h => Option.some_ne_none x h.1) f

/-- **What a mock that is not declined comes to**: the object that is read is recorded, and then the
stand-in is handed to the visited spaces, the given one if one is given.  The packages can be looked
for in a module that is named. -/
theorem mock_handed {w : World} {id : RegistryId} {name : String} {standIn : Option Object}
    (hnot : ∀ f, ¬ w.Declines (w.registry id) (.mock name standIn) f) :
    ∃ p x w' obstacle? reached rest, w.reading (w.registry id) name = some p ∧
      (∀ o ∈ standIn, x = o) ∧
      w.mock id name standIn = (w', match obstacle? with
        | some obstacle => .error (.blocked obstacle)
        | none => .ok x) ∧
      w.visited (w.registry id) name x = reached ++ rest ∧
      Handed (w.setRegistry id ((w.registry id).putReplaced name p)) w' name x
        (w.own (w.registry id).home name) reached rest obstacle? ∧
      (w.Searchable (w.registry id) name x → ∀ o, obstacle? ≠ some (.misnamed o)) := by
  obtain ⟨f, w₀, hdeclines, -, -⟩ |
      ⟨-, w₀, p, x, w', obstacle?, ⟨n, rfl⟩, hreading, hgiven, hinstall, hmock⟩ :=
    mock_outcome w id name standIn
  · exact absurd hdeclines (hnot f)
  · obtain ⟨reached, rest, hvisited, hhanded⟩ := install_handed
      ((({ w with nextObject := n } : World)).setRegistry id ((w.registry id).putReplaced name p))
      ((w.registry id).putReplaced name p) name x
    rw [hinstall] at hhanded
    -- Neither the record nor the number of the next object is looked at.
    refine ⟨p, x, w', obstacle?, reached, rest, hreading, hgiven, hmock, hvisited,
      ⟨⟨⟨hhanded.own, hhanded.kept, hhanded.inherited, hhanded.refusal, hhanded.loaded⟩,
        hhanded.registry, hhanded.gets, hhanded.stays⟩, hhanded.accepted, hhanded.ended⟩,
      fun hsearch o hobstacle => ?_⟩
    have hsearch₀ : (({ w with nextObject := n } : World).setRegistry id
        ((w.registry id).putReplaced name p)).Searchable
          ((w.registry id).putReplaced name p) name x := hsearch
    exact hsearch₀.not_misnamed o ((congrArg Prod.snd hinstall).trans hobstacle)

/-- **What restoring a saved name comes to**: the newest saved object is taken off, and then it is
handed to the visited spaces. -/
theorem restore_handed {w : World} {id : RegistryId} {name : String} {o : Object}
    {older : List Object} (hsaved : (w.registry id).savedOf name = o :: older) :
    ∃ w' obstacle? reached rest,
      w.restore id name = (w', match obstacle? with
        | some obstacle => .error (.blocked obstacle)
        | none => .ok o) ∧
      w.visited (w.registry id) name o = reached ++ rest ∧
      Handed (w.setRegistry id ((w.registry id).putSaved name older)) w' name o
        (w.own (w.registry id).home name) reached rest obstacle? := by
  obtain ⟨w', obstacle?, hinstall, hrestore⟩ := restore_of_saved hsaved
  obtain ⟨reached, rest, hvisited, hhanded⟩ := install_handed
    (w.setRegistry id ((w.registry id).putSaved name older))
    ((w.registry id).putSaved name older) name o
  rw [hinstall] at hhanded
  exact ⟨w', obstacle?, reached, rest, hrestore, hvisited, hhanded⟩

/-! ## What a refusal leaves behind -/

/-- That replacing a name ended half-way, at a space that refused.  The visited spaces before that
one accept and read the object, as far as they awaited it; all else reads as before. -/
def HalfDone (w w' : World) (r : Registry) (name : String) (value : Object) (refusal : Refusal) :
    Prop :=
  ∃ reached s later, w.visited r name value = reached ++ s :: later ∧
    w.Awaits name (w.own r.home name) s ∧ (w.space s).refusal = some refusal ∧
    (∀ t ∈ reached, w.Awaits name (w.own r.home name) t → w.Accepts t) ∧
    ∀ t other, w'.read t other =
      if other = name ∧ t ∈ reached ∧ w.Awaits name (w.own r.home name) t then some (.held value)
      else w.read t other

theorem Handed.halfDone {w w' : World} {id : RegistryId} {r r' : Registry} {name : String}
    {value : Object} {reached rest : List SpaceId} {refusal : Refusal}
    (hvisited : w.visited r name value = reached ++ rest)
    (h : Handed (w.setRegistry id r') w' name value (w.own r.home name) reached rest
      (some (.refused refusal))) : w.HalfDone w' r name value refusal := by
  obtain ⟨s, later, rfl, hawaits, hrefusal⟩ := h.ended
  refine ⟨reached, s, later, hvisited, hawaits, hrefusal, h.accepted, fun t other => ?_⟩
  by_cases hother : other = name
  · rw [hother]
    refine (h.read_eq t).trans (ite_congr (propext ?_) (fun _ => rfl) fun _ => rfl)
    exact ⟨fun ht => ⟨rfl, ht⟩, And.right⟩
  · rw [if_neg fun hc => hother hc.1]
    exact h.read t hother

/-- **What is left behind when a mock or a restoring is refused.**  In any world: the records of all
other registries are untouched.  The mocked name is on record with the object that was read under
it; nothing else of the registry's record has changed.  A restoring leaves the record of mocked
names, the aliases and what is saved for other names as they were, and for the restored name what is
saved below the newest object.  As for the spaces, the new object is read where it was awaited
before the space that refused, in the order in which spaces are visited; in that space, in those
behind it, in all others and under all other names the same is read as before. -/
theorem refused_halfway (w : World) (id : RegistryId) (name : String) (refusal : Refusal) :
    let r := w.registry id
    (∀ standIn, (w.mock id name standIn).2 = .error (.blocked (.refused refusal)) →
      let w' := (w.mock id name standIn).1
      ∃ p x, w.reading r name = some p ∧ (∀ o ∈ standIn, x = o) ∧
        w'.registry id = r.putReplaced name p ∧ (∀ j, j ≠ id → w'.registry j = w.registry j) ∧
        w.HalfDone w' r name x refusal) ∧
    ((w.restore id name).2 = .error (.blocked (.refused refusal)) →
      let w' := (w.restore id name).1
      ∃ o older, r.savedOf name = o :: older ∧ older <:+ (w'.registry id).savedOf name ∧
        (∀ other, other ≠ name → (w'.registry id).savedOf other = r.savedOf other) ∧
        (w'.registry id).replaced = r.replaced ∧ (w'.registry id).aliases = r.aliases ∧
        (∀ j, j ≠ id → w'.registry j = w.registry j) ∧ w.HalfDone w' r name o refusal) := by
  intro r
  refine ⟨fun standIn hrefused => ?_, fun hrefused => ?_⟩
  · -- What is declined fails otherwise.
    have hnot : ∀ f, ¬ w.Declines (w.registry id) (.mock name standIn) f := by
      obtain ⟨f, w₀, hdeclines, -, hmock⟩ | ⟨hnot, -⟩ := mock_outcome w id name standIn
      · rw [hmock] at hrefused
        cases hrefused
        cases hdeclines.isPrior
      · exact hnot
    obtain ⟨p, x, w', obstacle?, reached, rest, hreading, hgiven, hmock, hvisited, hhanded, -⟩ :=
      mock_handed hnot
    rw [hmock] at hrefused ⊢
    cases obstacle? with
    | none => cases hrefused
    | some obstacle =>
        cases hrefused
        exact ⟨p, x, hreading, hgiven, hhanded.recorded, fun j => hhanded.others,
          hhanded.halfDone hvisited⟩
  · cases hsaved : r.savedOf name with
    | nil =>
        obtain ⟨-, hrestore⟩ | ⟨o, older, -, -, hsaved', -⟩ := restore_cases w id name
        · rw [hrestore] at hrefused
          cases hrefused
        · rw [hsaved] at hsaved'
          cases hsaved'
    | cons o older =>
        obtain ⟨w', obstacle?, reached, rest, hrestore, hvisited, hhanded⟩ := restore_handed hsaved
        rw [hrestore] at hrefused ⊢
        cases obstacle? with
        | none => cases hrefused
        | some obstacle =>
            cases hrefused
            -- The newest object is taken from the record before it is put in place.
            have hrest : (w'.registry id).savedOf name = older := by
              rw [hhanded.recorded, Registry.savedOf_putSaved, if_pos rfl]
            refine ⟨o, older, rfl, hrest ▸ List.suffix_refl older, fun other hother => ?_, ?_, ?_,
              fun j => hhanded.others, hhanded.halfDone hvisited⟩
            all_goals rw [hhanded.recorded]
            · rw [Registry.savedOf_putSaved, if_neg hother]
            · rfl
            · rfl

/-- A space that refuses is an alias of the module.  A mock gets as far as the module, and so does a
restoring after module and space were given another object. -/
theorem refused_halfway_birdhouse :
    let w := (birdhouse.setSpace 2 ⟨[("fetch", fetch)], [], some .frozen⟩).addAlias 0 2
    let x : Object := .item 9 .resettable
    let changed := ((w.save 0 "fetch").1.put 0 "fetch" x).put 2 "fetch" x
    w.HalfDone (w.mock 0 "fetch" (some x)).1 (w.registry 0) "fetch" x .frozen ∧
      ((w.mock 0 "fetch" (some x)).1.registry 0).replaced.get? "fetch" = some fetch ∧
      changed.HalfDone (changed.restore 0 "fetch").1 (changed.registry 0) "fetch" fetch
        .frozen := by
  intro w x changed
  obtain ⟨hmock, -⟩ := refused_halfway w 0 "fetch" .frozen
  obtain ⟨-, hrestore⟩ := refused_halfway changed 0 "fetch" .frozen
  obtain ⟨p, x', hreading, hgiven, hrecord, -, hmocked⟩ := hmock (some x) rfl
  obtain ⟨o, older, hsaved, -, -, -, -, -, hrestored⟩ := hrestore rfl
  obtain rfl : x' = x := hgiven x rfl
  have hp : w.reading (w.registry 0) "fetch" = some fetch := by decide
  have ho : (changed.registry 0).savedOf "fetch" = [fetch] := by decide
  obtain ⟨rfl, -⟩ := List.cons.inj (hsaved.symm.trans ho)
  refine ⟨hmocked, ?_, hrestored⟩
  rw [hrecord, ← hp, hreading]
  exact Table.get?_put_self _ _ _

/-- So a refused operation does not leave everything as it was. -/
theorem not_unchanged_of_refused :
    ¬ ∀ (w : World) (id : RegistryId) (name : String) (op : Operation) (refusal : Refusal),
      (∃ standIn, op = .mock name standIn) ∨ op = .restore name →
      (w.perform id op).2 = .error (.blocked (.refused refusal)) →
      let w' := (w.perform id op).1
      (w'.registry id).replaced = (w.registry id).replaced ∧
        (w'.registry id).saved = (w.registry id).saved ∧
        ∀ s, w'.read s name = w.read s name := by
  intro h
  obtain ⟨hreplaced, -, -⟩ :=
    h ((birdhouse.setSpace 2 ⟨[("fetch", fetch)], [], some .frozen⟩).addAlias 0 2) 0 "fetch"
      (.mock "fetch" (some (.item 9 .resettable))) .frozen (.inl ⟨_, rfl⟩) rfl
  exact absurd hreplaced (by decide)

/-! ## Undoing an attempt -/

/-- A module that holds the name and accepts is reached, for it comes first. -/
theorem Handed.home_mem {w w₀ w' : World} {r : Registry} {name : String} {value previous : Object}
    {expected : Option Object} {reached rest : List SpaceId} {obstacle? : Option Obstacle}
    (h : Handed w₀ w' name value expected reached rest obstacle?)
    (hvisited : w.visited r name value = reached ++ rest)
    (hown : w.own r.home name = some previous) (hhome : w₀.Accepts r.home) :
    r.home ∈ reached := by
  cases reached with
  | cons s reached => exact home_mem_of_mem hown hvisited List.mem_cons_self
  | nil =>
      have hended := h.ended
      unfold visited at hvisited
      rw [hown] at hvisited
      -- The packages are looked for when the module has been reached.
      match obstacle?, hended with
      | none, hended =>
          rw [hended] at hvisited
          cases hvisited
      | some (.misnamed o), hended => exact absurd rfl hended
      | some (.refused refusal), hended =>
          obtain ⟨s, later, rfl, -, hrefusal⟩ := hended
          unfold Accepts at hhome
          rw [(List.cons.inj hvisited).1, hrefusal] at hhome
          cases hhome

section Giving

variable {w w₁ : World} {id : RegistryId} {name : String} {p x : Object} {G : SpaceId → Prop}

/-- **Unmocking a name when it comes back to the spaces that were given the stand-in.**  They read
the recorded object then, and all others what they read before the name was mocked. -/
theorem unmock_given
    (hgave : Wrote (w.setRegistry id ((w.registry id).putReplaced name p)) w₁ name x G)
    (haccept : ∀ s, G s → w.Accepts s) (hsearch : w₁.Searchable (w₁.registry id) name p)
    (hback : ∀ s, w₁.Receives (w₁.registry id) name p s ↔ G s) :
    let w' := w₁.unmock id name
    w'.2 = .ok p ∧ (w'.1.registry id).isMocked name = false ∧
      ∀ s, (G s → w'.1.read s name = some (.held p)) ∧
        (¬ G s → w'.1.read s name = w.read s name) := by
  have hmocked : (w₁.registry id).replaced.get? name = some p := by
    rw [hgave.recorded]
    exact Table.get?_put_self _ _ _
  obtain ⟨w₂, hunmock, hwrote⟩ := unmock_received hmocked hsearch fun s hs =>
    hgave.accepts (haccept s ((hback s).mp hs))
  rw [hunmock]
  refine ⟨rfl, ?_, fun s => ⟨fun hs => ?_, fun hs => ?_⟩⟩
  · rw [registry_setRegistry, if_pos rfl]
    simp [Registry.isMocked, Registry.dropReplaced, Table.has, Table.get?_drop]
  · exact hwrote.read_of ((hback s).mpr hs)
  · rw [read_setRegistry, hwrote.read_of_not fun hc => hs ((hback s).mp hc)]
    exact hgave.read_of_not hs

/-- It comes back to them if the module was given the stand-in and no visited space had it
before. -/
theorem receives_iff_given
    (hgave : Wrote (w.setRegistry id ((w.registry id).putReplaced name p)) w₁ name x G)
    (hhome : G (w.registry id).home)
    (hvisited : ∀ s, G s → s ∈ w₁.visited (w₁.registry id) name p)
    (hfresh : ∀ s ∈ w₁.visited (w₁.registry id) name p, w.read s name ≠ some (.held x))
    (s : SpaceId) : w₁.Receives (w₁.registry id) name p s ↔ G s := by
  have hown : w₁.own (w₁.registry id).home name = some x := by
    rw [hgave.recorded]
    exact hgave.gets _ hhome
  rw [receives_of_own hown]
  constructor
  · rintro ⟨hs, hread⟩
    exact (hgave.read_eq_held_iff (hfresh s hs)).mp hread
  · exact fun hs => ⟨hvisited s hs, hgave.read_of hs⟩

end Giving

/-- **Undoing an attempt to mock.**  In a module that is named, a name that the module holds is
mocked by an object that is no scalar and that no target reads under the name.  The module accepts
writes; each other space accepts them or refuses.  Whether the mock succeeds or is refused half-way,
the module's object is on record then, and unmocking the name succeeds with that object: the name is
not mocked any more, and every space reads under it what it read before the mock. -/
theorem unmock_attempted (w : World) (id : RegistryId) (name : String) (p x : Object)
    (hname : name ≠ nameKey) (hnamed : w.Named (w.registry id))
    (hown : w.own (w.registry id).home name = some p)
    (hfree : (w.registry id).isMocked name = false) (hx : x.isScalar = false)
    (hhome : w.Accepts (w.registry id).home)
    (hfresh : ∀ s ∈ w.targets (w.registry id), w.read s name ≠ some (.held x)) :
    let attempt := w.mock id name (some x)
    let w' := attempt.1.unmock id name
    (attempt.2 = .ok x ∨ ∃ refusal, attempt.2 = .error (.blocked (.refused refusal))) ∧
      (attempt.1.registry id).isMocked name = true ∧
      (attempt.1.registry id).replaced.get? name = some p ∧ w'.2 = .ok p ∧
      (w'.1.registry id).isMocked name = false ∧ ∀ s, w'.1.read s name = w.read s name := by
  obtain ⟨p', x', w₁, obstacle?, reached, rest, hreading, hgiven, hmock, hvisited, hhanded,
    hfound⟩ := mock_handed (not_declines_given hfree (.inl (Option.isSome_of_eq_some hown)))
  obtain rfl : x = x' := (hgiven x rfl).symm
  obtain rfl : p = p' := by
    unfold reading at hreading
    rw [valueOf_of_own hown] at hreading
    exact Option.some.inj hreading
  rw [hown] at hhanded
  have hgave := hhanded.toWrote
  have hrecord := hgave.recorded
  have hread : w.read (w.registry id).home name = some (.held p) := read_of_own hown
  -- The module has the stand-in, whatever comes after it.
  have hreached : (w.registry id).home ∈ reached := hhanded.home_mem hvisited hown hhome
  have hown' : w₁.own (w₁.registry id).home name = some x := by
    rw [hrecord]
    exact hgave.gets _ ⟨hreached, awaits_some_iff.mpr hread⟩
  have hpackages : w₁.ancestors ((w.registry id).putReplaced name p) =
      w.ancestors (w.registry id) := hgave.ancestors hname.symm rfl
  -- The stand-in is no scalar, so that all that was visited before is visited again.
  have hback : ∀ s, w₁.Receives (w₁.registry id) name p s ↔
      s ∈ reached ∧ w.Awaits name (some p) s := by
    refine receives_iff_given hgave ⟨hreached, awaits_some_iff.mpr hread⟩ (fun s hs => ?_)
      fun s hs => hfresh s ?_
    · have hmem : s ∈ w.visited (w.registry id) name x := by
        rw [hvisited]
        exact List.mem_append_left rest hs.1
      rw [mem_visited_of_own hown, ancestors_put hname] at hmem
      rw [mem_visited_of_own hown', ancestors_put hname, hrecord, hpackages]
      exact hmem.imp_right (Or.imp_right fun h => ⟨hx, h.2⟩)
    · rw [mem_visited_of_own hown', ancestors_put hname, hrecord, hpackages] at hs
      unfold targets
      rw [List.mem_cons, List.mem_append]
      exact hs.imp_right (Or.imp_right And.right)
  have hsearch : w₁.Searchable (w₁.registry id) name p :=
    (hgave.named hname.symm (congrArg Registry.home hrecord) hnamed).searchable hname
  obtain ⟨hanswer, hfree', hreads⟩ := unmock_given hgave
    (fun s hs => hhanded.accepted s hs.1 hs.2) hsearch hback
  have hmocked : (w₁.registry id).replaced.get? name = some p := by
    rw [hrecord]
    exact Table.get?_put_self _ _ _
  rw [hmock]
  refine ⟨?_, ?_, hmocked, hanswer, hfree', fun s => ?_⟩
  · match obstacle? with
    | none => exact .inl rfl
    | some (.refused refusal) => exact .inr ⟨refusal, rfl⟩
    | some (.misnamed o) => exact absurd rfl (hfound (hnamed.searchable hname) o)
  · rw [isMocked_eq, hmocked]
    rfl
  · by_cases hs : s ∈ reached ∧ w.Awaits name (some p) s
    · rw [(hreads s).1 hs]
      exact (awaits_some_iff.mp hs.2).symm
    · exact (hreads s).2 hs

/-- A space that refuses is an alias of the module, so that the module alone got the stand-in.
Unmocking does not come to that space. -/
theorem unmock_attempted_birdhouse :
    let w := (birdhouse.setSpace 2 ⟨[("fetch", fetch)], [], some .frozen⟩).addAlias 0 2
    let attempt := w.mock 0 "fetch" (some (.item 9 .resettable))
    let w' := attempt.1.unmock 0 "fetch"
    attempt.2 = .error (.blocked (.refused .frozen)) ∧
      attempt.1.read 0 "fetch" = some (.held (.item 9 .resettable)) ∧ w'.2 = .ok fetch ∧
      ∀ s, w'.1.read s "fetch" = w.read s "fetch" := by
  intro w attempt w'
  obtain ⟨-, -, -, hanswer, -, hread⟩ := unmock_attempted w 0 "fetch" fetch (.item 9 .resettable)
    (by decide) (by decide) (by decide) (by decide) rfl (by decide) (by decide +kernel)
  exact ⟨rfl, by decide, hanswer, hread⟩

/-- In a module that is not named, a scalar is mocked by an object that is none.  Then the packages
are not looked for until the name is unmocked. -/
theorem not_unmock_of_mocked :
    ¬ ∀ (w : World) (id : RegistryId) (name : String) (p x : Object), name ≠ nameKey →
      w.own (w.registry id).home name = some p → (w.registry id).isMocked name = false →
      x.isScalar = false → w.Accepts (w.registry id).home →
      (∀ s, w.read s name ≠ some (.held x)) → (w.mock id name (some x)).2 = .ok x →
      ((w.mock id name (some x)).1.unmock id name).2 = .ok p := by
  intro h
  have hunmocked := h (misnamedBirdhouse.put 0 "fetch" (.item 7 .scalar)) 0 "fetch"
    (.item 7 .scalar) (.item 8 .resettable) (by decide) (by decide) (by decide) rfl
    (by decide) (fun s => ?_) rfl
  · exact nomatch hunmocked
  · rw [read_put]
    split
    · simp
    · exact read_misnamedBirdhouse_ne (by decide) (by decide) .resettable s "fetch"

end Standin.World
