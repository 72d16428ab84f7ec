/-
Whether it matters in which order registries undo everything.

A registry puts back what it recorded, and that may be the stand-in of another registry:
if a package is mocked after its module, the package's registry records the module's
stand-in.  Undone last, it leaves that stand-in for good.  This is the only way for the
order to matter.

Two runs show it.  If every registry recorded the object of the start, the lane is
`Layered`: whatever a space reads apart from the start is the stand-in of a registry that
reaches it, so that each registry finds its own stand-in where it put it, whoever came
before (`Layered.undo`).  If a registry recorded anything else, visiting it last leaves
that in its module, and visiting the registries from the last that mocked to the first
does not (`exists_order`).
-/
import Standin.Proofs.Lane
import Standin.Proofs.RoundTrip

set_option autoImplicit false

namespace Standin

/-- A call that mocks a name by a given stand-in. -/
structure Call where
  id : RegistryId
  name : String
  standIn : Object

namespace Call

/-- The call as an action. -/
def action (c : Call) : Action := .operate c.id (.mock c.name (some c.standIn))

end Call

namespace Lane

/-- The lane after calls that mock its name. -/
def mockAll (calls : List Call) (a : Lane) : Lane :=
  calls.foldl (fun a c => a.mock c.id c.standIn) a

theorem circle_mockAll (calls : List Call) (a : Lane) : (mockAll calls a).circle = a.circle := by
  induction calls generalizing a with
  | nil => rfl
  | cons c calls ih => exact (ih (a.mock c.id c.standIn)).trans (circle_mock a c.id c.standIn)

theorem original_mockAll {a : Lane} {j : RegistryId} {p : Object}
    (horiginal : a.original j = some p) (calls : List Call) :
    (mockAll calls a).original j = some p := by
  induction calls generalizing a with
  | nil => exact horiginal
  | cons c calls ih => exact ih (original_mock horiginal c.id c.standIn)

/-- Calls that mock a name for registries of a list, by different objects that are no scalars and
that no space reads. -/
structure Fresh (ids : List RegistryId) (calls : List Call) (a : Lane) : Prop where
  mem : ∀ c ∈ calls, c.id ∈ ids
  nonscalar : ∀ c ∈ calls, c.standIn.isScalar = false
  unseen : ∀ c ∈ calls, ∀ s, a.sight s ≠ some (.held c.standIn)
  distinct : (calls.map Call.standIn).Nodup

/-- After the first call the others are fresh still. -/
theorem Fresh.tail {ids : List RegistryId} {c : Call} {calls : List Call} {a : Lane}
    (h : Fresh ids (c :: calls) a) : Fresh ids calls (a.mock c.id c.standIn) := by
  obtain ⟨hother, hdistinct⟩ := List.nodup_cons.mp h.distinct
  refine ⟨fun d hd => h.mem d (List.mem_cons_of_mem c hd),
    fun d hd => h.nonscalar d (List.mem_cons_of_mem c hd), fun d hd s => ?_, hdistinct⟩
  refine sight_mock_ne (h.unseen d (List.mem_cons_of_mem c hd) s) fun heq => hother ?_
  rw [heq]
  exact List.mem_map_of_mem hd

/-! ## From the last to the first -/

/-- The spaces that follow a stand-in are those that were given it. -/
theorem follows_replace_iff {a : Lane} {i : RegistryId} {p x : Object}
    (hx : x.isScalar = false) (hunseen : ∀ s, a.sight s ≠ some (.held x)) (s : SpaceId) :
    (a.replace i p x (some p)).Follows i x s ↔ a.Follows i p s := by
  constructor
  · rintro (hhome | ⟨-, hread⟩)
    · exact .inl hhome
    · refine Classical.byContradiction fun hnot => hunseen s ?_
      rw [sight_replace, if_neg hnot] at hread
      exact hread
  · intro hfollows
    have hread : (a.replace i p x (some p)).sight s = some (.held x) := by
      rw [sight_replace, if_pos hfollows]
    exact follows_of_reaches hx (reaches_of_follows (a := a) hfollows) hread

/-- **Undoing right after mocking** gives the lane back. -/
theorem undo_mock {a : Lane} {i : RegistryId} {x : Object} (horiginal : a.original i = none)
    (hx : x.isScalar = false) (hunseen : ∀ s, a.sight s ≠ some (.held x)) :
    (a.mock i x).undo i = a := by
  unfold mock
  split
  · rename_i p _ hsight
    have hrecord : (a.replace i p x (some p)).original i = some p := by
      rw [original_replace, if_pos rfl]
    rw [undo_of_mocked hrecord sight_replace_home]
    refine Lane.ext rfl (funext fun s => ?_) (funext fun j => ?_)
    · rw [sight_replace, sight_replace]
      by_cases hs : a.Follows i p s
      · rw [if_pos ((follows_replace_iff hx hunseen s).mpr hs)]
        exact (sight_of_follows hsight hs).symm
      · rw [if_neg fun hc => hs ((follows_replace_iff hx hunseen s).mp hc), if_neg hs]
    · rw [original_replace, original_replace]
      by_cases hj : j = i
      · rw [if_pos hj, hj, horiginal]
      · rw [if_neg hj, if_neg hj]
  · exact undo_of_free horiginal

/-- A registry that has recorded nothing may be left out. -/
theorem undoAll_erase {a : Lane} {i : RegistryId} (horiginal : a.original i = none)
    (ids : List RegistryId) : undoAll (ids.erase i) a = undoAll ids a := by
  induction ids generalizing a with
  | nil => rfl
  | cons j rest ih =>
      by_cases hj : j = i
      · rw [hj, List.erase_cons_head]
        unfold undoAll
        rw [List.foldl_cons, undo_of_free horiginal]
      · rw [List.erase_cons_tail fun h => hj (beq_iff_eq.mp h)]
        refine ih (a := a.undo j) ?_
        rw [original_undo_of_ne (Ne.symm hj)]
        exact horiginal

/-- **Some order gives the start back**: the registries that mocked later come first. -/
theorem exists_order {ids : List RegistryId} {sight : SpaceId → Option Sight}
    (calls : List Call) {a : Lane} (hcalls : Fresh ids calls a)
    (h : ∃ l : List RegistryId, l.Perm ids ∧ (undoAll l a).sight = sight) :
    ∃ l : List RegistryId, l.Perm ids ∧ (undoAll l (mockAll calls a)).sight = sight := by
  induction calls generalizing a with
  | nil => exact h
  | cons c calls ih =>
      obtain ⟨l, hperm, hsight⟩ := h
      refine ih (a := a.mock c.id c.standIn) hcalls.tail ?_
      cases horiginal : a.original c.id with
      | some p =>
          -- A call that is refused changes nothing.
          rw [mock_of_mocked horiginal]
          exact ⟨l, hperm, hsight⟩
      | none =>
          -- The registry that mocked last comes first; its old place in the order does not matter.
          have hmem : c.id ∈ l := hperm.mem_iff.mpr (hcalls.mem c List.mem_cons_self)
          refine ⟨c.id :: l.erase c.id, (List.perm_cons_erase hmem).symm.trans hperm, ?_⟩
          have hundo : (a.mock c.id c.standIn).undo c.id = a :=
            undo_mock horiginal (hcalls.nonscalar c List.mem_cons_self)
              (hcalls.unseen c List.mem_cons_self)
          calc (undoAll (c.id :: l.erase c.id) (a.mock c.id c.standIn)).sight
              = (undoAll (l.erase c.id) ((a.mock c.id c.standIn).undo c.id)).sight := rfl
            _ = (undoAll (l.erase c.id) a).sight := by rw [hundo]
            _ = (undoAll l a).sight := by rw [undoAll_erase horiginal]
            _ = sight := hsight

/-- **A registry that comes last** leaves what it recorded in its module. -/
theorem sight_undoAll_last {i : RegistryId} {o : Object} (l : List RegistryId) {a : Lane}
    (hnot : i ∉ l) (horiginal : a.original i = some o)
    (hsight : ∃ q, a.sight (a.circle i).home = some (.held q)) :
    (undoAll (l ++ [i]) a).sight (a.circle i).home = some (.held o) := by
  induction l generalizing a with
  | nil =>
      obtain ⟨q, hq⟩ := hsight
      show (a.undo i).sight (a.circle i).home = some (.held o)
      rw [undo_of_mocked horiginal hq, sight_replace_home]
  | cons j l ih =>
      have hne : i ≠ j := fun h => hnot (h ▸ List.mem_cons_self)
      have hrest := ih (a := a.undo j) (fun h => hnot (List.mem_cons_of_mem j h))
        (by rw [original_undo_of_ne hne]; exact horiginal)
        (by rw [circle_undo]; exact held_undo hsight j)
      rw [circle_undo] at hrest
      exact hrest

/-! ## Layers -/

/-- A lane that differs from a start by the stand-ins of some registries, each of which has recorded
what its module read at the start.  A module reads the stand-in of its registry; these are different
objects, no scalars, and were read nowhere at the start; and where a space reads anything else than
at the start, it is the stand-in of a registry that reaches the space, in the place of the object
that this registry has recorded. -/
structure Layered (ids : List RegistryId) (start a : Lane) : Prop where
  circle : a.circle = start.circle
  start_home : ∀ i ∈ ids, ∀ p, a.original i = some p →
    start.sight (a.circle i).home = some (.held p)
  home : ∀ i ∈ ids, ∀ p, a.original i = some p → ∃ x,
    a.sight (a.circle i).home = some (.held x) ∧ x.isScalar = false ∧
      ∀ s, start.sight s ≠ some (.held x)
  distinct : ∀ i ∈ ids, ∀ j ∈ ids, (a.original i).isSome → (a.original j).isSome →
    a.sight (a.circle i).home = a.sight (a.circle j).home → i = j
  sight : ∀ s, a.sight s = start.sight s ∨ ∃ i ∈ ids, ∃ p, a.original i = some p ∧
    a.Reaches i s ∧ a.sight s = a.sight (a.circle i).home ∧ start.sight s = some (.held p)

namespace Layered

variable {ids : List RegistryId} {start a : Lane} {i : RegistryId}

theorem refl (hnone : ∀ i ∈ ids, start.original i = none) : Layered ids start start := by
  refine ⟨rfl, fun i hi p hp => ?_, fun i hi p hp => ?_, fun i hi j _ hsome _ _ => ?_,
    fun s => .inl rfl⟩
  · rw [hnone i hi] at hp
    cases hp
  · rw [hnone i hi] at hp
    cases hp
  · rw [hnone i hi] at hsome
    cases hsome

/-- When nothing is recorded any more the start is back. -/
theorem sight_eq (h : Layered ids start a) (hnone : ∀ i ∈ ids, a.original i = none) :
    a.sight = start.sight := by
  funext s
  rcases h.sight s with hs | ⟨i, hi, p, hp, -⟩
  · exact hs
  · rw [hnone i hi] at hp
    cases hp

section Undo

variable {p x : Object}

/-- The modules of the other registries read other stand-ins, so that putting an object in the place
of one stand-in leaves them alone. -/
theorem sight_home_replace (h : Layered ids start a) (hi : i ∈ ids)
    (hsome : (a.original i).isSome) (hx : a.sight (a.circle i).home = some (.held x))
    {j : RegistryId} (hj : j ∈ ids) (hne : j ≠ i) (hsome' : (a.original j).isSome) :
    (a.replace i x p none).sight (a.circle j).home = a.sight (a.circle j).home :=
  sight_replace_of_ne hx fun hc => hne (h.distinct j hj i hi hsome' hsome (hc.trans hx.symm))

/-- Where the stand-in of a registry is read, the start has what the registry recorded. -/
theorem start_sight_of_follows (h : Layered ids start a) (hi : i ∈ ids)
    (horiginal : a.original i = some p) (hx : a.sight (a.circle i).home = some (.held x))
    (hfresh : ∀ s, start.sight s ≠ some (.held x)) {s : SpaceId} (hs : a.Follows i x s) :
    start.sight s = some (.held p) := by
  have hread : a.sight s = some (.held x) := sight_of_follows hx hs
  rcases h.sight s with hsame | ⟨j, hj, q, hq, -, heq, hstart⟩
  · exact absurd (hsame.symm.trans hread) (hfresh s)
  · -- What is read is the stand-in of `i`, so that it is the layer of `i`.
    obtain rfl := h.distinct j hj i hi (Option.isSome_of_eq_some hq)
      (Option.isSome_of_eq_some horiginal) (heq.symm.trans (hread.trans hx.symm))
    rw [horiginal] at hq
    rw [hstart, Option.some.inj hq]

/-- Only the registry itself forgets what it has recorded. -/
theorem original_of_replace_none {j : RegistryId} {q : Object}
    (hq : (a.replace i x p none).original j = some q) : j ≠ i ∧ a.original j = some q := by
  rw [original_replace] at hq
  split at hq
  · cases hq
  · next hne => exact ⟨hne, hq⟩

/-- **Undoing takes a layer off**, wherever it lies. -/
theorem undo (h : Layered ids start a) (hi : i ∈ ids) : Layered ids start (a.undo i) := by
  cases horiginal : a.original i with
  | none =>
      rw [undo_of_free horiginal]
      exact h
  | some p =>
      obtain ⟨x, hx, hscalar, hfresh⟩ := h.home i hi p horiginal
      rw [undo_of_mocked horiginal hx]
      have hhome : ∀ j ∈ ids, j ≠ i → (a.original j).isSome →
          (a.replace i x p none).sight (a.circle j).home = a.sight (a.circle j).home :=
        fun j => h.sight_home_replace hi (Option.isSome_of_eq_some horiginal) hx
      refine { circle := h.circle, start_home := ?start_home, home := ?home,
               distinct := ?distinct, sight := ?sight }
      case start_home =>
        intro j hj q hq
        exact h.start_home j hj q (original_of_replace_none hq).2
      case home =>
        intro j hj q hq
        obtain ⟨hne, hq'⟩ := original_of_replace_none hq
        obtain ⟨y, hy, hrest⟩ := h.home j hj q hq'
        refine ⟨y, ?_, hrest⟩
        rw [circle_replace, hhome j hj hne (Option.isSome_of_eq_some hq')]
        exact hy
      case distinct =>
        intro j hj k hk hsome hsome' heq
        obtain ⟨q, hq⟩ := Option.isSome_iff_exists.mp hsome
        obtain ⟨q', hq'⟩ := Option.isSome_iff_exists.mp hsome'
        obtain ⟨hne, hq⟩ := original_of_replace_none hq
        obtain ⟨hne', hq'⟩ := original_of_replace_none hq'
        have hj' : (a.original j).isSome := Option.isSome_of_eq_some hq
        have hk' : (a.original k).isSome := Option.isSome_of_eq_some hq'
        rw [circle_replace, hhome j hj hne hj', hhome k hk hne' hk'] at heq
        exact h.distinct j hj k hk hj' hk' heq
      case sight =>
        intro s
        -- Where the stand-in is followed the start is back; elsewhere the layer is one of the
        -- others.
        rw [sight_replace]
        by_cases hs : a.Follows i x s
        · rw [if_pos hs, h.start_sight_of_follows hi horiginal hx hfresh hs]
          exact .inl rfl
        · rw [if_neg hs]
          rcases h.sight s with hsame | ⟨j, hj, q, hq, hreaches, heq, hstart⟩
          · exact .inl hsame
          · have hne : j ≠ i := by
              rintro rfl
              exact hs (follows_of_reaches hscalar hreaches (heq.trans hx))
            refine .inr ⟨j, hj, q, ?_, hreaches, ?_, hstart⟩
            · rw [original_replace, if_neg hne]
              exact hq
            · rw [circle_replace, hhome j hj hne (Option.isSome_of_eq_some hq)]
              exact heq

end Undo

section Mock

variable {p x : Object}

/-- A mocked module reads a stand-in, which is no object of the start. -/
theorem sight_home_ne (h : Layered ids start a) {s : SpaceId}
    (hstart : start.sight s = some (.held p)) {j : RegistryId} (hj : j ∈ ids)
    (hsome : (a.original j).isSome) : a.sight (a.circle j).home ≠ some (.held p) := by
  intro hc
  obtain ⟨q, hq⟩ := Option.isSome_iff_exists.mp hsome
  obtain ⟨y, hy, -, hfresh⟩ := h.home j hj q hq
  exact hfresh s (hstart.trans (hc.symm.trans hy))

/-- One more layer: a registry that has recorded nothing replaces an object of the start. -/
theorem replace (h : Layered ids start a) (hi : i ∈ ids) (hscalar : x.isScalar = false)
    (hfresh : ∀ s, start.sight s ≠ some (.held x)) (hunseen : ∀ s, a.sight s ≠ some (.held x))
    (hfree : a.original i = none) (hsight : a.sight (a.circle i).home = some (.held p))
    (hstart : start.sight (a.circle i).home = some (.held p)) :
    Layered ids start (a.replace i p x (some p)) := by
  have hgiven : (a.replace i p x (some p)).sight (a.circle i).home = some (.held x) :=
    sight_replace_home
  have hhome : ∀ j ∈ ids, (a.original j).isSome →
      (a.replace i p x (some p)).sight (a.circle j).home = a.sight (a.circle j).home :=
    fun j hj hsome => sight_replace_of_ne hsight (h.sight_home_ne hstart hj hsome)
  have hmocked : ∀ j, j ≠ i → (a.replace i p x (some p)).original j = a.original j :=
    fun j hne => by rw [original_replace, if_neg hne]
  refine { circle := h.circle, start_home := ?start_home, home := ?home,
           distinct := ?distinct, sight := ?sight }
  case start_home =>
    intro j hj q hq
    by_cases hji : j = i
    · rw [hji, original_replace, if_pos rfl] at hq
      rw [hji, circle_replace, ← Option.some.inj hq]
      exact hstart
    · exact h.start_home j hj q ((hmocked j hji).symm.trans hq)
  case home =>
    intro j hj q hq
    by_cases hji : j = i
    · rw [hji]
      exact ⟨x, hgiven, hscalar, hfresh⟩
    · rw [hmocked j hji] at hq
      rw [circle_replace, hhome j hj (Option.isSome_of_eq_some hq)]
      exact h.home j hj q hq
  case distinct =>
    -- The new stand-in was read nowhere, so no other module reads it.
    intro j hj k hk hsome hsome' heq
    rw [circle_replace] at heq
    by_cases hji : j = i <;> by_cases hki : k = i
    · rw [hji, hki]
    · rw [hmocked k hki] at hsome'
      rw [hji, hgiven, hhome k hk hsome'] at heq
      exact absurd heq.symm (hunseen _)
    · rw [hmocked j hji] at hsome
      rw [hki, hgiven, hhome j hj hsome] at heq
      exact absurd heq (hunseen _)
    · rw [hmocked j hji] at hsome
      rw [hmocked k hki] at hsome'
      rw [hhome j hj hsome, hhome k hk hsome'] at heq
      exact h.distinct j hj k hk hsome hsome' heq
  case sight =>
    intro s
    by_cases hs : a.Follows i p s
    · refine .inr ⟨i, hi, p, ?_, reaches_of_follows (a := a) hs, ?_, ?_⟩
      · rw [original_replace, if_pos rfl]
      · rw [circle_replace, hgiven, sight_replace, if_pos hs]
      · have hread : a.sight s = some (.held p) := sight_of_follows hsight hs
        rcases h.sight s with hsame | ⟨j, hj, q, hq, -, heq, -⟩
        · exact hsame.symm.trans hread
        · exact absurd (heq.symm.trans hread)
            (h.sight_home_ne hstart hj (Option.isSome_of_eq_some hq))
    · have hsame : (a.replace i p x (some p)).sight s = a.sight s := by
        rw [sight_replace, if_neg hs]
      rw [hsame]
      rcases h.sight s with hstart' | ⟨j, hj, q, hq, hreaches, heq, hstart'⟩
      · exact .inl hstart'
      · have hji : j ≠ i := by
          intro hji
          rw [hji, hfree] at hq
          cases hq
        refine .inr ⟨j, hj, q, (hmocked j hji).trans hq, hreaches, ?_, hstart'⟩
        rw [circle_replace, hhome j hj (Option.isSome_of_eq_some hq)]
        exact heq

/-- **Mocking puts a layer on**, when the registry records the object of the start. -/
theorem mock (h : Layered ids start a) (hi : i ∈ ids) (hscalar : x.isScalar = false)
    (hfresh : ∀ s, start.sight s ≠ some (.held x)) (hunseen : ∀ s, a.sight s ≠ some (.held x))
    (hrecord : ∀ p, (a.mock i x).original i = some p →
      start.sight (a.circle i).home = some (.held p)) : Layered ids start (a.mock i x) := by
  unfold Lane.mock at hrecord ⊢
  split at hrecord
  · next p hfree hsight =>
    have hstart : start.sight (a.circle i).home = some (.held p) :=
      hrecord p (by rw [original_replace, if_pos rfl])
    exact h.replace hi hscalar hfresh hunseen hfree hsight hstart
  · exact h

end Mock

/-- The lane of a run of calls is layered, if every registry recorded the object of the start in the
end: what a registry has recorded it keeps. -/
theorem mockAll (h : Layered ids start a) (calls : List Call) (hcalls : Fresh ids calls a)
    (hfresh : ∀ c ∈ calls, ∀ s, start.sight s ≠ some (.held c.standIn))
    (hrecord : ∀ i ∈ ids, ∀ p, (mockAll calls a).original i = some p →
      start.sight (start.circle i).home = some (.held p)) :
    Layered ids start (Lane.mockAll calls a) := by
  induction calls generalizing a with
  | nil => exact h
  | cons c calls ih =>
      refine ih (a := a.mock c.id c.standIn) ?_ hcalls.tail
        (fun d hd => hfresh d (List.mem_cons_of_mem c hd)) hrecord
      refine h.mock (hcalls.mem c List.mem_cons_self) (hcalls.nonscalar c List.mem_cons_self)
        (hfresh c List.mem_cons_self) (hcalls.unseen c List.mem_cons_self) fun p hp => ?_
      rw [h.circle]
      exact hrecord c.id (hcalls.mem c List.mem_cons_self) p (original_mockAll hp calls)

/-- Registries that have undone everything have nothing recorded. -/
theorem undoEach (h : Layered ids start a) (l : List RegistryId) (hl : ∀ i ∈ l, i ∈ ids) :
    Layered ids start (undoAll l a) ∧
      ∀ i ∈ ids, i ∈ l ∨ a.original i = none → (undoAll l a).original i = none := by
  induction l generalizing a with
  | nil => exact ⟨h, fun i _ hnone => hnone.resolve_left List.not_mem_nil⟩
  | cons j l ih =>
      have hj : j ∈ ids := hl j List.mem_cons_self
      obtain ⟨hlayered, hnone⟩ := ih (h.undo hj) fun i hi => hl i (List.mem_cons_of_mem j hi)
      refine ⟨hlayered, fun i hi hdone => hnone i hi ?_⟩
      by_cases hij : i = j
      · refine .inr ?_
        rw [hij]
        cases horiginal : a.original j with
        | none =>
            rw [undo_of_free horiginal]
            exact horiginal
        | some p =>
            obtain ⟨x, hx, -⟩ := h.home j hj p horiginal
            exact original_undo hx
      · rcases hdone with hmem | horiginal
        · exact .inl ((List.mem_cons.mp hmem).resolve_left hij)
        · refine .inr ?_
          rw [original_undo_of_ne hij]
          exact horiginal

/-- **Undoing all layers in any order** gives the start back. -/
theorem sight_undoAll (h : Layered ids start a) {l : List RegistryId} (hl : l.Perm ids) :
    (undoAll l a).sight = start.sight := by
  obtain ⟨hlayered, hnone⟩ := h.undoEach l fun i hi => hl.mem_iff.mp hi
  exact hlayered.sight_eq fun i hi => hnone i hi (.inl (hl.mem_iff.mpr hi))

end Layered

/-! ## When the order does not matter -/

section Order

variable {ids : List RegistryId} {start : Lane} {calls : List Call}

/-- **Every order gives the start back** if every registry recorded the object of the start. -/
theorem sight_undoAll_mockAll (hnone : ∀ i ∈ ids, start.original i = none)
    (hcalls : Fresh ids calls start)
    (hrecord : ∀ i ∈ ids, ∀ p, (mockAll calls start).original i = some p →
      start.sight (start.circle i).home = some (.held p)) {l : List RegistryId}
    (hl : l.Perm ids) : (undoAll l (mockAll calls start)).sight = start.sight :=
  ((Layered.refl hnone).mockAll calls hcalls hcalls.unseen hrecord).sight_undoAll hl

/-- **Only then does the order not matter.** -/
theorem record_of_sight_undoAll (hnodup : ids.Nodup) (hnone : ∀ i ∈ ids, start.original i = none)
    (hcalls : Fresh ids calls start)
    (hheld : ∀ i ∈ ids, ∀ p, (mockAll calls start).original i = some p →
      ∃ q, (mockAll calls start).sight (start.circle i).home = some (.held q))
    (horder : ∀ l l' : List RegistryId, l.Perm ids → l'.Perm ids →
      (undoAll l (mockAll calls start)).sight = (undoAll l' (mockAll calls start)).sight) :
    ∀ i ∈ ids, ∀ p, (mockAll calls start).original i = some p →
      start.sight (start.circle i).home = some (.held p) := by
  intro i hi p hp
  have hcircle : (mockAll calls start).circle = start.circle := circle_mockAll calls start
  -- One order gives the start back, and one has `i` last: both leave the same in the module of `i`.
  obtain ⟨l, hl, hsight⟩ := exists_order calls hcalls
    ⟨ids, .refl ids, (Layered.refl hnone).sight_undoAll (.refl ids)⟩
  have hlast := sight_undoAll_last (ids.erase i) (hnodup.not_mem_erase) hp
    (by rw [hcircle]; exact hheld i hi p hp)
  have hperm : (ids.erase i ++ [i]).Perm ids :=
    (List.perm_append_singleton i (ids.erase i)).trans (List.perm_cons_erase hi).symm
  rw [hcircle, horder _ l hperm hl, hsight] at hlast
  exact hlast

end Order

end Lane

namespace World

/-- Registries of named modules that have replaced and saved nothing, and whose spaces accept. -/
theorem Staged.of_unused {ids : List RegistryId} {w : World}
    (hnamed : ∀ i ∈ ids, w.Named (w.registry i))
    (haccept : ∀ i ∈ ids, ∀ s ∈ w.targets (w.registry i), w.Accepts s)
    (hunused : ∀ i ∈ ids, (w.registry i).replaced = [] ∧
      ∀ name, (w.registry i).savedOf name = []) : Staged ids w := by
  refine ⟨fun i hi => ?_, fun i hi => (hunused i hi).2, fun i hi name hsome => ?_⟩
  · exact .of_unused (haccept i hi) (hnamed i hi) (hunused i hi).1 ((hunused i hi).2 nameKey)
  · rw [(hunused i hi).1] at hsome
    exact absurd hsome Bool.false_ne_true

/-- The lanes of a run of calls, each of which mocks a name that the module of its registry
holds. -/
theorem Staged.actAll {ids : List RegistryId} (calls : List Call) {w : World} (h : Staged ids w)
    (hcalls : ∀ c ∈ calls, c.id ∈ ids ∧ c.name ≠ nameKey ∧
      (w.own (w.registry c.id).home c.name).isSome) :
    Staged ids (World.actAll (calls.map Call.action) w) ∧
      ∀ name, (World.actAll (calls.map Call.action) w).lane name =
        (w.lane name).mockAll (calls.filter (·.name = name)) := by
  induction calls generalizing w with
  | nil => exact ⟨h, fun name => rfl⟩
  | cons c calls ih =>
      obtain ⟨hmem, hname, hlocal⟩ := hcalls c List.mem_cons_self
      obtain ⟨p, hp⟩ := Option.isSome_iff_exists.mp hlocal
      have heffect := mock_effect w c.id c.name (some c.standIn)
      have hhome : ∀ j, ((w.mock c.id c.name (some c.standIn)).1.registry j).home =
          (w.registry j).home := by
        intro j
        by_cases hj : j = c.id
        · rw [hj]
          exact heffect.record.constant.2.2.1
        · rw [heffect.others j hj]
      obtain ⟨hstaged, hlanes⟩ := ih (h.mock hmem hname hlocal (some c.standIn)) fun d hd => by
        obtain ⟨hmem', hname', hlocal'⟩ := hcalls d (List.mem_cons_of_mem c hd)
        rw [hhome]
        exact ⟨hmem', hname', heffect.kept _ _ hlocal'⟩
      refine ⟨hstaged, fun name => (hlanes name).trans ?_⟩
      have haccept : ∀ s, w.Follows (w.registry c.id) c.name s → w.Accepts s := fun s hs =>
        (h.ready c.id hmem).accepts s (mem_targets_of_follows hs)
      rw [lane_mock c.standIn hname (h.ready c.id hmem).named hp haccept, List.filter_cons]
      by_cases hother : name = c.name
      · rw [if_pos hother, if_pos (decide_eq_true hother.symm)]
        rfl
      · rw [if_neg hother, if_neg fun hc => hother (of_decide_eq_true hc).symm]

/-- The lanes after registries have undone everything in some order. -/
theorem Staged.undoAll {ids : List RegistryId} (l : List RegistryId) {w : World}
    (h : Staged ids w) (hl : ∀ i ∈ l, i ∈ ids) :
    (World.undoAll l w).2 = .ok () ∧
      ∀ name, (World.undoAll l w).1.lane name = (w.lane name).undoAll l := by
  induction l generalizing w with
  | nil => exact ⟨rfl, fun name => rfl⟩
  | cons i l ih =>
      have hi : i ∈ ids := hl i List.mem_cons_self
      obtain ⟨hok, hlanes⟩ := ih (h.undo hi) fun j hj => hl j (List.mem_cons_of_mem i hj)
      rw [undoAll_cons (h.ready i hi)]
      refine ⟨hok, fun name => (hlanes name).trans ?_⟩
      rw [h.lane_undo hi]
      rfl

/-- What is read after a run of calls and after undoing everything, by lanes. -/
theorem Staged.read_undoAll {ids : List RegistryId} {w : World} (h : Staged ids w)
    {calls : List Call} (hcalls : ∀ c ∈ calls, c.id ∈ ids ∧ c.name ≠ nameKey ∧
      (w.own (w.registry c.id).home c.name).isSome) {l : List RegistryId} (hl : l.Perm ids)
    (s : SpaceId) (name : String) :
    (World.undoAll l (World.actAll (calls.map Call.action) w)).1.read s name =
      (((w.lane name).mockAll (calls.filter (·.name = name))).undoAll l).sight s := by
  obtain ⟨hstaged, hlanes⟩ := h.actAll calls hcalls
  obtain ⟨-, hlanes'⟩ := hstaged.undoAll l fun i hi => hl.mem_iff.mp hi
  rw [← hlanes name, ← hlanes' name]
  rfl

/-- The calls that are about one name are fresh in its lane. -/
theorem fresh_lane {ids : List RegistryId} {w : World} {calls : List Call}
    (hmem : ∀ c ∈ calls, c.id ∈ ids)
    (hfresh : ∀ c ∈ calls, c.standIn.isScalar = false ∧
      ∀ s, w.read s c.name ≠ some (.held c.standIn))
    (hdistinct : (calls.map Call.standIn).Nodup) (name : String) :
    Lane.Fresh ids (calls.filter (·.name = name)) (w.lane name) := by
  have hfilter : ∀ c ∈ calls.filter (·.name = name), c ∈ calls ∧ c.name = name := fun c hc =>
    ⟨(List.mem_filter.mp hc).1, of_decide_eq_true (List.mem_filter.mp hc).2⟩
  refine ⟨fun c hc => hmem c (hfilter c hc).1, fun c hc => (hfresh c (hfilter c hc).1).1,
    fun c hc s => ?_, (List.filter_sublist.map Call.standIn).nodup hdistinct⟩
  obtain ⟨hcall, rfl⟩ := hfilter c hc
  exact (hfresh c hcall).2 s

/-- A registry that has recorded an object for a name has it in its module. -/
theorem Staged.sight_home {ids : List RegistryId} {w : World} (h : Staged ids w)
    {i : RegistryId} (hi : i ∈ ids) {name : String} {p : Object}
    (hp : (w.lane name).original i = some p) :
    ∃ q, (w.lane name).sight ((w.lane name).circle i).home = some (.held q) := by
  have hsome : ((w.registry i).replaced.get? name).isSome := by
    rw [show (w.registry i).replaced.get? name = some p from hp]
    rfl
  obtain ⟨q, hq⟩ := Option.isSome_iff_exists.mp (h.held i hi name hsome)
  exact ⟨q, read_of_own hq⟩

/-- That whatever some registries have recorded in a world is what their modules read at a start. -/
def RecordsStart (ids : List RegistryId) (start w : World) : Prop :=
  ∀ i ∈ ids, ∀ name p, (w.registry i).replaced.get? name = some p →
    start.read (start.registry i).home name = some (.held p)

/-- **The order in which registries undo everything.**  The registries of a list, which is any
number of them over any spaces, have replaced and saved nothing, their modules are named, and all
spaces that they may write accept.  Then names of their modules are mocked, each by another object
that is no scalar and that no space reads under the name.  Undoing everything succeeds in every
order; the order does not matter exactly if each registry has recorded what its module read at the
start; and if so, every space reads under every name what it read at the start. -/
theorem undoAll_order_iff (w : World) (ids : List RegistryId) (calls : List Call)
    (hnodup : ids.Nodup)
    (hunused : ∀ i ∈ ids, (w.registry i).replaced = [] ∧ ∀ name, (w.registry i).savedOf name = [])
    (hnamed : ∀ i ∈ ids, w.Named (w.registry i))
    (haccept : ∀ i ∈ ids, ∀ s ∈ w.targets (w.registry i), w.Accepts s)
    (hcalls : ∀ c ∈ calls, c.id ∈ ids ∧ c.name ≠ nameKey ∧
      (w.own (w.registry c.id).home c.name).isSome)
    (hfresh : ∀ c ∈ calls, c.standIn.isScalar = false ∧
      ∀ s, w.read s c.name ≠ some (.held c.standIn))
    (hdistinct : (calls.map Call.standIn).Nodup) :
    let w₁ := actAll (calls.map Call.action) w
    (∀ l : List RegistryId, l.Perm ids → (undoAll l w₁).2 = .ok ()) ∧
      ((∀ l l' : List RegistryId, l.Perm ids → l'.Perm ids →
          ∀ s name, (undoAll l w₁).1.read s name = (undoAll l' w₁).1.read s name) ↔
        RecordsStart ids w w₁) ∧
      (RecordsStart ids w w₁ → ∀ l : List RegistryId, l.Perm ids →
        ∀ s name, (undoAll l w₁).1.read s name = w.read s name) := by
  intro w₁
  have hstart : Staged ids w := .of_unused hnamed haccept hunused
  obtain ⟨hstaged, hlanes⟩ := hstart.actAll calls hcalls
  have hread : ∀ {l : List RegistryId}, l.Perm ids → ∀ s name, (undoAll l w₁).1.read s name =
      (((w.lane name).mockAll (calls.filter (·.name = name))).undoAll l).sight s :=
    fun hl s name => hstart.read_undoAll hcalls hl s name
  have hnone : ∀ name, ∀ i ∈ ids, (w.lane name).original i = none := by
    intro name i hi
    show (w.registry i).replaced.get? name = none
    rw [(hunused i hi).1]
    rfl
  have hlane := fresh_lane (fun c hc => (hcalls c hc).1) hfresh hdistinct
  -- The lane of a name at the end of the calls, as it is in `w₁`.
  have hrecorded : ∀ i name p,
      ((w.lane name).mockAll (calls.filter (·.name = name))).original i = some p →
        (w₁.registry i).replaced.get? name = some p := by
    intro i name p hp
    rw [← hlanes name] at hp
    exact hp
  have hback : RecordsStart ids w w₁ → ∀ l : List RegistryId, l.Perm ids →
      ∀ s name, (undoAll l w₁).1.read s name = w.read s name := by
    intro hrecord l hl s name
    rw [hread hl]
    have hsame := Lane.sight_undoAll_mockAll (hnone name) (hlane name)
      (fun i hi p hp => hrecord i hi name p (hrecorded i name p hp)) hl
    exact congrFun hsame s
  refine ⟨fun l hl => ?_, ⟨fun horder => ?_, fun hrecord l l' hl hl' s name => ?_⟩, hback⟩
  · exact (hstaged.undoAll l fun i hi => hl.mem_iff.mp hi).1
  · intro i hi name p hp
    have hp' : ((w.lane name).mockAll (calls.filter (·.name = name))).original i = some p := by
      rw [← hlanes name]
      exact hp
    refine Lane.record_of_sight_undoAll hnodup (hnone name) (hlane name) (fun j hj q hq => ?_)
      (fun l l' hl hl' => funext fun s => ?_) i hi p hp'
    · rw [← Lane.circle_mockAll (calls.filter (·.name = name)) (w.lane name), ← hlanes name]
      exact hstaged.sight_home hj (hrecorded j name q hq)
    · rw [← hread hl, ← hread hl']
      exact horder l l' hl hl' s name
  · rw [hback hrecord l hl, hback hrecord l' hl']

/-- When the package is mocked before its module, the function comes back in it in both orders. -/
theorem undoAll_order_iff_birdhouse :
    let w₁ := actAll ([⟨1, "fetch", .item 8 .resettable⟩, ⟨0, "fetch", .item 9 .resettable⟩].map
      Call.action) birdhouse
    w₁.read 1 "fetch" = some (.held (.item 8 .resettable)) ∧
      (undoAll [0, 1] w₁).1.read 1 "fetch" = some (.held fetch) ∧
      (undoAll [1, 0] w₁).1.read 1 "fetch" = some (.held fetch) := by
  obtain ⟨-, -, hback⟩ := undoAll_order_iff birdhouse [0, 1]
    [⟨1, "fetch", .item 8 .resettable⟩, ⟨0, "fetch", .item 9 .resettable⟩] (by decide)
    (fun i _ => ⟨rfl, fun name => rfl⟩) (by decide) (by decide +kernel) (by decide)
    (by
      intro c hc
      rcases List.mem_cons.mp hc with rfl | hc
      · exact ⟨rfl, fun s => read_birdhouse_ne (by decide) .resettable s "fetch"⟩
      · obtain rfl := List.mem_singleton.mp hc
        exact ⟨rfl, fun s => read_birdhouse_ne (by decide) .resettable s "fetch"⟩)
    (by decide)
  have hrecord : RecordsStart [0, 1] birdhouse (actAll ([⟨1, "fetch", .item 8 .resettable⟩,
      ⟨0, "fetch", .item 9 .resettable⟩].map Call.action) birdhouse) := by
    intro i hi name p hp
    have hreplaced : ∀ i ∈ [0, 1], ((actAll ([⟨1, "fetch", .item 8 .resettable⟩,
        ⟨0, "fetch", .item 9 .resettable⟩].map Call.action) birdhouse).registry i).replaced =
          [("fetch", fetch)] := by decide +kernel
    rw [hreplaced i hi, Table.get?_cons] at hp
    split at hp
    · rename_i hname
      obtain rfl := Option.some.inj hp
      rw [← hname]
      revert i
      decide
    · cases hp
  exact ⟨by decide +kernel, hback hrecord [0, 1] (by decide) 1 "fetch",
    hback hrecord [1, 0] (by decide) 1 "fetch"⟩

/-- So the order matters: when the package is mocked after its module, it keeps the stand-in of the
module if it comes last. -/
theorem not_read_undoAll_eq :
    ¬ ∀ (w : World) (ids : List RegistryId) (calls : List Call), ids.Nodup →
      (∀ i ∈ ids, (w.registry i).replaced = [] ∧ ∀ name, (w.registry i).savedOf name = []) →
      (∀ i ∈ ids, w.Named (w.registry i)) →
      (∀ i ∈ ids, ∀ s ∈ w.targets (w.registry i), w.Accepts s) →
      (∀ c ∈ calls, c.id ∈ ids ∧ c.name ≠ nameKey ∧
        (w.own (w.registry c.id).home c.name).isSome) →
      (∀ c ∈ calls, c.standIn.isScalar = false ∧
        ∀ s name, w.read s name ≠ some (.held c.standIn)) →
      (calls.map Call.standIn).Nodup →
      ∀ l l' : List RegistryId, l.Perm ids → l'.Perm ids →
        ∀ s name, (undoAll l (actAll (calls.map Call.action) w)).1.read s name =
          (undoAll l' (actAll (calls.map Call.action) w)).1.read s name := by
  intro h
  have hpackage := h birdhouse [0, 1]
    [⟨0, "fetch", .item 8 .resettable⟩, ⟨1, "fetch", .item 9 .resettable⟩] (by decide)
    (fun i _ => ⟨rfl, fun name => rfl⟩) (by decide) (by decide +kernel) (by decide) ?_ (by decide)
    [0, 1] [1, 0] (by decide) (by decide) 1 "fetch"
  · exact absurd hpackage (by decide +kernel)
  · intro c hc
    rcases List.mem_cons.mp hc with rfl | hc
    · exact ⟨rfl, read_birdhouse_ne (by decide) .resettable⟩
    · obtain rfl := List.mem_singleton.mp hc
      exact ⟨rfl, read_birdhouse_ne (by decide) .resettable⟩

end World

end Standin
