/-
Names that only the aliases have.

A registry replaces a name that its module does not hold in all aliases that read it.  There
is no object of the module to compare with, so that it does not matter what they read.  But
one object is put on record, that of the first alias, and it is what all of them get back
(`unmock_mock_aliasOnly_iff`).  As long as they read the same object nothing is lost.

The module's own space may be an alias too, in which case the mock makes it hold the name.
Then the name is unmocked as one of the module, and the spaces that are written are those
that read the stand-in.  If that was read nowhere before, they are the same spaces.  And only
then are the packages around the module looked for, though none of them got the stand-in.
-/
import Standin.Proofs.Refused

set_option autoImplicit false

namespace Standin.World

variable {w w₁ : World} {id : RegistryId} {name : String} {p x : Object}

/-- **Mocking a name that only aliases have.**  The object that is read is put on record, and the
aliases that read the name get the stand-in. -/
theorem mock_aliasOnly (hown : w.own (w.registry id).home name = none)
    (hfree : (w.registry id).isMocked name = false)
    (hbound : ∃ s ∈ (w.registry id).aliases, (w.read s name).isSome)
    (haccept : ∀ s ∈ (w.registry id).aliases, w.Accepts s) :
    ∃ p w₁, w.reading (w.registry id) name = some p ∧ w.mock id name (some x) = (w₁, .ok x) ∧
      Wrote (w.setRegistry id ((w.registry id).putReplaced name p)) w₁ name x
        (w.Follows (w.registry id) name) := by
  obtain ⟨p, x', w₁, obstacle?, reached, rest, hreading, hgiven, hmock, hvisited, hhanded,
    hfound⟩ := mock_handed (not_declines_given hfree (.inr hbound))
  obtain rfl : x' = x := hgiven x rfl
  rw [hown] at hhanded
  rw [visited_of_not_own hown] at hvisited
  obtain ⟨rfl, rfl⟩ := hhanded.all (hfound (searchable_of_not_own hown)) fun s hs _ =>
    haccept s (hvisited ▸ List.mem_append_right _ hs)
  rw [List.append_nil] at hvisited
  refine ⟨p, w₁, hreading, hmock, hhanded.toWrote.congr fun s => ?_⟩
  rw [follows_of_not_own hown, hvisited]
  exact and_congr_right fun _ => awaits_none_iff

/-- When the name is unmocked the object comes back to the same aliases. -/
theorem receives_iff_of_aliasOnly (hown : w.own (w.registry id).home name = none)
    (hfresh : ∀ s, w.read s name ≠ some (.held x))
    (hgave : Wrote (w.setRegistry id ((w.registry id).putReplaced name p)) w₁ name x
      (w.Follows (w.registry id) name)) (s : SpaceId) :
    w₁.Receives (w₁.registry id) name p s ↔ w.Follows (w.registry id) name s := by
  have hrecord := hgave.recorded
  cases hown₁ : w₁.own (w.registry id).home name with
  | none =>
      have hown' : w₁.own (w₁.registry id).home name = none := by
        rw [hrecord]
        exact hown₁
      rw [receives_of_not_own hown', hrecord, follows_of_not_own hown]
      refine and_congr_right fun hs => ?_
      by_cases hgiven : w.Follows (w.registry id) name s
      · rw [hgave.read_of hgiven, ((follows_of_not_own hown s).mp hgiven).2]
        rfl
      · rw [hgave.read_of_not hgiven]
        rfl
  | some q =>
      -- The module did not hold the name, so it has it from the mock, as an alias of its own.
      have hhome : w.Follows (w.registry id) name (w.registry id).home := by
        refine Classical.byContradiction fun hnot => ?_
        have hsame : w₁.own (w.registry id).home name = none := (hgave.stays _ hnot).trans hown
        rw [hown₁] at hsame
        cases hsame
      refine receives_iff_given hgave hhome (fun t ht => ?_) (fun t _ => hfresh t) s
      have hown' : w₁.own (w₁.registry id).home name = some q := by
        rw [hrecord]
        exact hown₁
      rw [mem_visited_of_own hown', hrecord]
      exact .inr (.inl ((follows_of_not_own hown t).mp ht).1)

/-- The packages can be looked for then: the module holds the name from the mock, if at all, and
with the object in its place it is named. -/
theorem searchable_of_aliasOnly (hown : w.own (w.registry id).home name = none)
    (hgave : Wrote (w.setRegistry id ((w.registry id).putReplaced name p)) w₁ name x
      (w.Follows (w.registry id) name))
    (hnamed : w.Follows (w.registry id) name (w.registry id).home → x.isScalar = false →
      (w.put (w.registry id).home name p).Named (w.registry id)) :
    w₁.Searchable (w₁.registry id) name p := by
  rw [hgave.recorded]
  intro q (hq : w₁.own (w.registry id).home name = some q) hscalar
  by_cases hhome : w.Follows (w.registry id) name (w.registry id).home
  · obtain rfl : x = q := Option.some.inj ((hgave.gets _ hhome).symm.trans hq)
    refine (misnomer_congr ?_).trans (hnamed hhome hscalar)
    show (w₁.put _ name p).own (w.registry id).home nameKey = (w.put _ name p).own _ nameKey
    rw [own_put, own_put]
    exact ite_congr rfl (fun _ => rfl) fun hother => hgave.own _ _ fun h => hother ⟨rfl, h⟩
  · rw [(hgave.stays _ hhome).trans hown] at hq
    cases hq

/-- What is read under such a name is what one of the aliases reads. -/
theorem exists_of_reading_aliasOnly (hown : w.own (w.registry id).home name = none)
    (hreading : w.reading (w.registry id) name = some p) :
    ∃ s ∈ (w.registry id).aliases, ∃ sight, w.read s name = some sight ∧ (w.take sight).1 = p := by
  unfold reading valueOf at hreading
  rw [hown] at hreading
  obtain ⟨sight, hfirst, hp⟩ := Option.map_eq_some_iff.mp hreading
  obtain ⟨s, hs, hread⟩ := List.exists_of_findSome?_eq_some hfirst
  exact ⟨s, hs, sight, hread, hp⟩

/-- **Mocking a name that only aliases have, and unmocking it at once.**  The name, which may be the
one of the module itself, is mocked by an object that no space reads under it.  If the module's own
space is one of the aliases that read the name, and the stand-in is no scalar, then the module is
named with the object that is read in its place; of other modules nothing is asked.  One object is
read under the name, and unmocking puts this one in all aliases that read the name; all else reads
as before.  So the aliases read as before exactly if all that read the name read one object, and
hold it or inherit it as it is. -/
theorem unmock_mock_aliasOnly_iff (w : World) (id : RegistryId) (name : String) (x : Object)
    (hown : w.own (w.registry id).home name = none)
    (hfree : (w.registry id).isMocked name = false)
    (hbound : ∃ s ∈ (w.registry id).aliases, (w.read s name).isSome)
    (haccept : ∀ s ∈ (w.registry id).aliases, w.Accepts s)
    (hnamed : w.Follows (w.registry id) name (w.registry id).home → x.isScalar = false →
      ∀ p ∈ w.reading (w.registry id) name,
        (w.put (w.registry id).home name p).Named (w.registry id))
    (hfresh : ∀ s, w.read s name ≠ some (.held x)) :
    let aliases := (w.registry id).aliases
    let w' := (w.mock id name (some x)).1.unmock id name
    (w.mock id name (some x)).2 = .ok x ∧
      (∃ p, w.reading (w.registry id) name = some p ∧ w'.2 = .ok p ∧
        ∀ s, w'.1.read s name =
          if s ∈ aliases ∧ (w.read s name).isSome then some (.held p) else w.read s name) ∧
      (w'.1.registry id).isMocked name = false ∧
      ((∀ s ∈ aliases, w'.1.read s name = w.read s name) ↔
        ∃ o, ∀ s ∈ aliases, (w.read s name).isSome → w.read s name = some (.held o)) := by
  intro aliases w'
  obtain ⟨p, w₁, hreading, hmock, hgave⟩ :=
    mock_aliasOnly (x := x) hown hfree hbound haccept
  have hfollows := follows_of_not_own hown
  have hback := receives_iff_of_aliasOnly hown hfresh hgave
  obtain ⟨hanswer, hfree', hreads⟩ :=
    unmock_given hgave (fun s hs => haccept s ((hfollows s).mp hs).1)
      (searchable_of_aliasOnly hown hgave fun hhome hx => hnamed hhome hx p hreading) hback
  have hw' : w' = w₁.unmock id name := by
    show (w.mock id name (some x)).1.unmock id name = _
    rw [hmock]
  rw [← hw'] at hanswer hfree' hreads
  have hread : ∀ s, w'.1.read s name =
      if s ∈ aliases ∧ (w.read s name).isSome then some (.held p) else w.read s name := by
    intro s
    split <;> rename_i hs
    · exact (hreads s).1 ((hfollows s).mpr hs)
    · exact (hreads s).2 fun hc => hs ((hfollows s).mp hc)
  refine ⟨by rw [hmock], ⟨p, hreading, hanswer, hread⟩, hfree', fun hsame => ?_, ?_⟩
  · refine ⟨p, fun s hs hsome => ?_⟩
    rw [← hsame s hs, hread, if_pos ⟨hs, hsome⟩]
  · rintro ⟨o, ho⟩ s hs
    obtain ⟨t, ht, sight, htread, hp⟩ := exists_of_reading_aliasOnly hown hreading
    -- What is on record is what the first alias reads, and so what all of them read.
    have hto := ho t ht (Option.isSome_of_eq_some htread)
    rw [htread] at hto
    obtain rfl : sight = .held o := Option.some.inj hto
    obtain rfl : o = p := hp
    rw [hread]
    split <;> rename_i hgiven
    · exact (ho s hs hgiven.2).symm
    · rfl

/-- A name that two aliases of the module have and the module has not. -/
def perched (a b : Object) : World :=
  (((birdhouse.put 2 "perch" a).put 3 "perch" b).addAlias 0 2).addAlias 0 3

/-- Objects with a number of 4 or above are new there too, apart from those two. -/
theorem read_perched_ne {a b : Object} {k : Nat} (hk : 4 ≤ k) (nature : Nature)
    (ha : a ≠ .item k nature) (hb : b ≠ .item k nature) (s : SpaceId) (name : String) :
    (perched a b).read s name ≠ some (.held (.item k nature)) := by
  show ((birdhouse.put 2 "perch" a).put 3 "perch" b).read s name ≠ _
  rw [read_put, read_put]
  split
  · simpa using hb
  · split
    · simpa using ha
    · exact read_birdhouse_ne hk nature s name

/-- Each alias has an object of its own under the name, and the second gets that of the first. -/
theorem unmock_mock_aliasOnly_iff_birdhouse :
    let w := perched (.item 7 .plain) (.item 8 .plain)
    let w' := (w.mock 0 "perch" (some (.item 9 .resettable))).1.unmock 0 "perch"
    (w.mock 0 "perch" (some (.item 9 .resettable))).2 = .ok (.item 9 .resettable) ∧
      w'.2 = .ok (.item 7 .plain) ∧ w'.1.read 2 "perch" = some (.held (.item 7 .plain)) ∧
      w'.1.read 3 "perch" = some (.held (.item 7 .plain)) := by
  intro w w'
  obtain ⟨hmock, ⟨p, hreading, hanswer, hread⟩, -, -⟩ := unmock_mock_aliasOnly_iff w 0 "perch"
    (.item 9 .resettable) (by decide) (by decide) ⟨2, by decide⟩
    (by decide)
    (fun hhome =>
      absurd ((follows_of_not_own (by decide) _).mp hhome).1 (by decide))
    fun s => read_perched_ne (by decide) .resettable (by decide) (by decide) s "perch"
  have hp : w.reading (w.registry 0) "perch" = some (.item 7 .plain) := by decide
  obtain rfl : p = .item 7 .plain := Option.some.inj (hreading.symm.trans hp)
  refine ⟨hmock, hanswer, (hread 2).trans ?_, (hread 3).trans ?_⟩ <;> decide

/-- So a name does not always read as before when it is unmocked at once. -/
theorem not_read_unmock_mock_aliasOnly :
    ¬ ∀ (w : World) (id : RegistryId) (name : String) (x : Object),
      w.own (w.registry id).home name = none → (w.registry id).isMocked name = false →
      (∃ s ∈ (w.registry id).aliases, (w.read s name).isSome) →
      (∀ s ∈ (w.registry id).aliases, w.Accepts s) → (∀ s, w.read s name ≠ some (.held x)) →
      ∀ s ∈ (w.registry id).aliases,
        ((w.mock id name (some x)).1.unmock id name).1.read s name = w.read s name := by
  intro h
  have hsecond := h (perched (.item 7 .plain) (.item 8 .plain)) 0 "perch" (.item 9 .resettable)
    (by decide) (by decide) ⟨2, by decide⟩ (by decide)
    (fun s => read_perched_ne (by decide) .resettable (by decide) (by decide) s "perch") 3
    (by decide)
  exact absurd hsecond (by decide)

end Standin.World
