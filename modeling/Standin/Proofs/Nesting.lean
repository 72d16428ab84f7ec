/-
Mocks that are undone in the reverse order.

Registries share spaces, so that undoing a mock can go wrong when another registry has
mocked the name meanwhile.  It goes right when all that was mocked since is undone first:
then every space reads as right after the mock, and the spaces that follow are those
that were given the stand-in.  So a bracket of a mock and its undoing, with brackets in
between, leaves the world as it was (`Alike.bracket`), and a sequence of brackets, each
with brackets in it, does so by induction (`Nesting.undoes`).

What is kept from bracket to bracket is that the lanes of all names are the same and
that spaces hold what they held, apart from the same objects being written anew.
-/
import Standin.Proofs.VisitingOrder

set_option autoImplicit false

namespace Standin

namespace Call

/-- The call that puts back what a call replaced, as an action. -/
def undoing (c : Call) : Action := .operate c.id (.unmock c.name)

/-- That a call finds what it needs in a world: a module that is named, a name, other than that of
the module itself, that it holds and that is not mocked, and spaces that accept where the stand-in
is written. -/
structure Fits (c : Call) (w : World) : Prop where
  name_ne : c.name ≠ World.nameKey
  named : w.Named (w.registry c.id)
  held : (w.own (w.registry c.id).home c.name).isSome
  free : (w.registry c.id).isMocked c.name = false
  accepts : ∀ s, w.Follows (w.registry c.id) c.name s → w.Accepts s

/-- It is enough that all spaces accept that the registry may write. -/
theorem Fits.of_targets {c : Call} {w : World} (hname : c.name ≠ World.nameKey)
    (hnamed : w.Named (w.registry c.id))
    (hheld : (w.own (w.registry c.id).home c.name).isSome)
    (hfree : (w.registry c.id).isMocked c.name = false)
    (haccept : ∀ s ∈ w.targets (w.registry c.id), w.Accepts s) : c.Fits w :=
  ⟨hname, hnamed, hheld, hfree, fun s hs => haccept s (World.mem_targets_of_follows hs)⟩

end Call

/-- Brackets of calls: a call, brackets in between, the undoing of the call, and then the brackets
that come after. -/
inductive Nesting where
  | done
  | around (c : Call) (inner rest : Nesting)

namespace Nesting

open World (actAll)

/-- The calls of all brackets. -/
def calls : Nesting → List Call
  | .done => []
  | .around c inner rest => c :: (inner.calls ++ rest.calls)

/-- The calls and their undoings in order. -/
def actions : Nesting → List Action
  | .done => []
  | .around c inner rest => c.action :: (inner.actions ++ c.undoing :: rest.actions)

/-- That each call finds what it needs when its turn comes. -/
def Fits : Nesting → World → Prop
  | .done, _ => True
  | .around c inner rest, w =>
    c.Fits w ∧ inner.Fits (w.act c.action) ∧
      rest.Fits ((actAll inner.actions (w.act c.action)).act c.undoing)

/-- That each call succeeds, and that its undoing succeeds and gives the object that the module held
before the call. -/
def Undoes : Nesting → World → Prop
  | .done, _ => True
  | .around c inner rest, w =>
    let w₁ := w.act c.action
    let w₂ := actAll inner.actions w₁
    (∃ p, w.own (w.registry c.id).home c.name = some p ∧
      (w.mock c.id c.name (some c.standIn)).2 = .ok c.standIn ∧
      (w₂.unmock c.id c.name).2 = .ok p) ∧
      inner.Undoes w₁ ∧ rest.Undoes (w₂.act c.undoing)

/-- The calls have different stand-ins, which are no scalars and which no space reads. -/
structure Fresh (n : Nesting) (w : World) : Prop where
  nonscalar : ∀ c ∈ n.calls, c.standIn.isScalar = false
  unseen : ∀ c ∈ n.calls, ∀ s, w.read s c.name ≠ some (.held c.standIn)
  distinct : (n.calls.map Call.standIn).Nodup

end Nesting

namespace World

/-- That all lanes are the same, and that spaces have not lost what they held. -/
structure Alike (w w' : World) : Prop extends Within (· ≠ nameKey) w w' where
  lane : ∀ name, w'.lane name = w.lane name

namespace Alike

variable {w w' w'' : World}

theorem refl (w : World) : Alike w w := ⟨.refl _ w, fun _ => rfl⟩

theorem trans (h : Alike w w') (h' : Alike w' w'') : Alike w w'' :=
  ⟨h.toWithin.trans h'.toWithin, fun name => (h'.lane name).trans (h.lane name)⟩

theorem read_eq (h : Alike w w') (s : SpaceId) (name : String) : w'.read s name = w.read s name :=
  congrFun (congrArg Lane.sight (h.lane name)) s

theorem replaced_eq (h : Alike w w') (i : RegistryId) (name : String) :
    (w'.registry i).replaced.get? name = (w.registry i).replaced.get? name :=
  congrFun (congrArg Lane.original (h.lane name)) i

end Alike

section Bracket

variable {w w₂ : World} {c : Call} {p : Object}

/-- A call that fits succeeds. -/
theorem mock_of_fits (hfits : c.Fits w) :
    (w.mock c.id c.name (some c.standIn)).2 = .ok c.standIn := by
  obtain ⟨p, hp⟩ := Option.isSome_iff_exists.mp hfits.held
  obtain ⟨w', hmock, -⟩ := mock_accepted (some c.standIn) hfits.name_ne hfits.named hp
    (isMocked_eq_false_iff.mp hfits.free) rfl hfits.accepts
  rw [hmock]

/-- What a call that fits does to the lane of its name. -/
theorem lane_of_fits (hfits : c.Fits w) (hp : w.own (w.registry c.id).home c.name = some p) :
    (w.act c.action).lane c.name = (w.lane c.name).replace c.id p c.standIn (some p) := by
  have hfree : (w.lane c.name).original c.id = none := isMocked_eq_false_iff.mp hfits.free
  have hsight : (w.lane c.name).sight ((w.lane c.name).circle c.id).home = some (.held p) :=
    read_of_own hp
  exact (lane_mock c.standIn hfits.name_ne hfits.named hp hfits.accepts c.name).trans
    ((if_pos rfl).trans (Lane.mock_of_free hfree hsight))

/-- **A bracket**: when the world is again as it was right after a call, undoing the call succeeds,
gives the object that the module held, and leaves the world as it was before the call. -/
theorem Alike.bracket (hfits : c.Fits w) (hscalar : c.standIn.isScalar = false)
    (hunseen : ∀ s, w.read s c.name ≠ some (.held c.standIn))
    (hp : w.own (w.registry c.id).home c.name = some p) (halike : Alike (w.act c.action) w₂) :
    (w₂.unmock c.id c.name).2 = .ok p ∧ Alike w (w₂.act c.undoing) := by
  have hname : ∀ other, other = c.name → other ≠ nameKey := fun other h => h ▸ hfits.name_ne
  have hbefore : Within (· ≠ nameKey) w w₂ :=
    ((mock_effect w c.id c.name (some c.standIn)).toWithin.mono hname).trans halike.toWithin
  have hlane : (w₂.lane c.name) = (w.lane c.name).replace c.id p c.standIn (some p) :=
    (halike.lane c.name).trans (lane_of_fits hfits hp)
  have hhome : (w₂.registry c.id).home = (w.registry c.id).home :=
    congrArg (fun a => (a.circle c.id).home) hlane
  have hmocked : (w₂.registry c.id).replaced.get? c.name = some p :=
    (congrArg (fun a => a.original c.id) hlane).trans (if_pos rfl)
  have hheld : (w₂.own (w₂.registry c.id).home c.name).isSome := by
    rw [hhome]
    exact hbefore.kept _ _ hfits.held
  have hnamed : w₂.Named (w₂.registry c.id) := hbefore.named (fun h => h rfl) hhome hfits.named
  -- The module holds the stand-in, so that the spaces that were given it follow.
  have haccept : ∀ s, w₂.Follows (w₂.registry c.id) c.name s → w₂.Accepts s := by
    intro s hs
    obtain ⟨q, hq⟩ := Option.isSome_iff_exists.mp hheld
    have hread : (w₂.lane c.name).sight (w₂.registry c.id).home = some (.held q) := read_of_own hq
    rw [hhome, hlane, Lane.sight_replace, if_pos (.inl rfl)] at hread
    obtain rfl : c.standIn = q := by
      injection hread with hread
      injection hread
    have hfollows := (follows_lane_iff hq s).mpr hs
    rw [hlane, Lane.follows_replace_iff hscalar hunseen, follows_lane_iff hp] at hfollows
    exact hbefore.accepts (hfits.accepts s hfollows)
  obtain ⟨w₃, hunmock, -⟩ := unmock_accepted hfits.name_ne hnamed hmocked haccept
  refine ⟨by rw [hunmock], ?_, fun other => ?_⟩
  · exact hbefore.trans ((unmock_effect w₂ c.id c.name).toWithin.mono hname)
  · have hfree : (w.lane c.name).original c.id = none := isMocked_eq_false_iff.mp hfits.free
    refine (lane_unmock hfits.name_ne hnamed hheld hmocked haccept other).trans ?_
    rw [halike.lane other]
    have hmock := lane_mock c.standIn hfits.name_ne hfits.named hp hfits.accepts other
    split
    · rename_i hother
      subst hother
      rw [if_pos rfl] at hmock
      exact (congrArg (fun a => a.undo c.id) hmock).trans (Lane.undo_mock hfree hscalar hunseen)
    · rename_i hother
      rw [if_neg hother] at hmock
      exact hmock

end Bracket

end World

namespace Nesting

open World

variable {c : Call} {inner rest : Nesting} {w w' : World}

/-- After the first call its stand-in is in place, and the others are fresh still. -/
theorem Fresh.inside (h : Fresh (.around c inner rest) w) (hfits : c.Fits w) :
    inner.Fresh (w.act c.action) := by
  obtain ⟨hother, hdistinct⟩ := List.nodup_cons.mp h.distinct
  have hmem : ∀ d ∈ inner.calls, d ∈ inner.calls ++ rest.calls := fun d hd =>
    List.mem_append_left _ hd
  obtain ⟨p, hp⟩ := Option.isSome_iff_exists.mp hfits.held
  refine ⟨fun d hd => h.nonscalar d (List.mem_cons_of_mem c (hmem d hd)), fun d hd s => ?_,
    ((List.sublist_append_left inner.calls rest.calls).map Call.standIn).nodup hdistinct⟩
  have hunseen := h.unseen d (List.mem_cons_of_mem c (hmem d hd)) s
  have hlane := lane_mock c.standIn hfits.name_ne hfits.named hp hfits.accepts d.name
  have hsight := congrFun (congrArg Lane.sight hlane) s
  intro hread
  by_cases hname : d.name = c.name
  · rw [if_pos hname] at hsight
    -- What is read there now and was not before is the stand-in of the outer call.
    refine Lane.sight_mock_ne (a := w.lane d.name) hunseen (fun heq => hother ?_)
      (hsight.symm.trans hread)
    exact heq ▸ List.mem_map_of_mem (hmem d hd)
  · rw [if_neg hname] at hsight
    exact hunseen (hsight.symm.trans hread)

/-- What comes after a bracket is fresh where the world is as before. -/
theorem Fresh.after (h : Fresh (.around c inner rest) w) (halike : Alike w w') :
    rest.Fresh w' := by
  have hmem : ∀ d ∈ rest.calls, d ∈ c :: (inner.calls ++ rest.calls) := fun d hd =>
    List.mem_cons_of_mem c (List.mem_append_right _ hd)
  refine ⟨fun d hd => h.nonscalar d (hmem d hd), fun d hd s => ?_, ?_⟩
  · rw [halike.read_eq]
    exact h.unseen d (hmem d hd) s
  · have hsublist := (List.sublist_append_right inner.calls rest.calls).map Call.standIn
    exact hsublist.nodup (List.nodup_cons.mp h.distinct).2

/-- **Brackets leave the world as it was.**  The induction is on the brackets: those within a call
start from the world after the call, those after it from a world that is as before. -/
theorem undoes (n : Nesting) {w : World} (hfits : n.Fits w) (hfresh : n.Fresh w) :
    n.Undoes w ∧ Alike w (actAll n.actions w) := by
  induction n generalizing w with
  | done => exact ⟨trivial, .refl w⟩
  | around c inner rest ih_inner ih_rest =>
      obtain ⟨hcall, hinner, hrest⟩ := hfits
      obtain ⟨p, hp⟩ := Option.isSome_iff_exists.mp hcall.held
      obtain ⟨hundoes₁, halike₁⟩ := ih_inner hinner (hfresh.inside hcall)
      obtain ⟨hanswer, halike₂⟩ := Alike.bracket hcall (hfresh.nonscalar c List.mem_cons_self)
        (hfresh.unseen c List.mem_cons_self) hp halike₁
      obtain ⟨hundoes₃, halike₃⟩ := ih_rest hrest (hfresh.after halike₂)
      have hactions : actAll (around c inner rest).actions w =
          actAll rest.actions ((actAll inner.actions (w.act c.action)).act c.undoing) := by
        show actAll (c.action :: (inner.actions ++ c.undoing :: rest.actions)) w = _
        rw [actAll_cons]
        exact List.foldl_append
      refine ⟨⟨⟨p, hp, mock_of_fits hcall, hanswer⟩, hundoes₁, hundoes₃⟩, ?_⟩
      rw [hactions]
      exact halike₂.trans halike₃

end Nesting

namespace World

/-- **Mocks that are undone in the reverse order.**  Registries, any number of them over any spaces,
mock names of their modules in brackets: each mock is undone after those that came since are.  Each
finds its module named and the name in it and not mocked, and the spaces accept the stand-in, which
is no scalar, is no other one's, and is read nowhere at the start.  Then every call succeeds, each
undoing gives what its own mock replaced, and at the end every space reads under every name what it
read at the start, and the same names are mocked, with the same objects recorded for them. -/
theorem nesting_undone (w : World) (n : Nesting) (hfits : n.Fits w) (hfresh : n.Fresh w) :
    let w' := actAll n.actions w
    n.Undoes w ∧ (∀ s name, w'.read s name = w.read s name) ∧
      ∀ i name, (w'.registry i).isMocked name = (w.registry i).isMocked name ∧
        (w'.registry i).replaced.get? name = (w.registry i).replaced.get? name := by
  intro w'
  obtain ⟨hundoes, halike⟩ := n.undoes hfits hfresh
  refine ⟨hundoes, halike.read_eq, fun i name => ⟨?_, halike.replaced_eq i name⟩⟩
  rw [isMocked_eq, isMocked_eq, halike.replaced_eq]

/-- The package mocks the function while its module does, and records the stand-in of the module;
after that the module mocks another name.  The package gets the function back. -/
theorem nesting_undone_birdhouse :
    let outer : Call := ⟨0, "fetch", .item 8 .resettable⟩
    let inner : Call := ⟨1, "fetch", .item 9 .resettable⟩
    let last : Call := ⟨0, "helper", .item 10 .resettable⟩
    let w₂ := (birdhouse.act outer.action).act inner.action
    let w' := (((w₂.act inner.undoing).act outer.undoing).act last.action).act last.undoing
    (w₂.registry 1).replaced.get? "fetch" = some (.item 8 .resettable) ∧
      w₂.read 1 "fetch" = some (.held (.item 9 .resettable)) ∧
      (w₂.unmock 1 "fetch").2 = .ok (.item 8 .resettable) ∧
      (∀ s name, w'.read s name = birdhouse.read s name) ∧
      ∀ i name, (w'.registry i).isMocked name = false := by
  intro outer inner last w₂ w'
  have houter : outer.Fits birdhouse :=
    .of_targets (by decide) (by decide) (by decide) (by decide) (by decide +kernel)
  have hinner : inner.Fits (birdhouse.act outer.action) :=
    .of_targets (by decide) (by decide +kernel) (by decide +kernel) (by decide +kernel)
      (by decide +kernel)
  have hlast : last.Fits ((w₂.act inner.undoing).act outer.undoing) :=
    .of_targets (by decide) (by decide +kernel) (by decide +kernel) (by decide +kernel)
      (by decide +kernel)
  have hunseen : ∀ c ∈ [outer, inner, last], ∀ s,
      birdhouse.read s c.name ≠ some (.held c.standIn) := by
    intro c hc s
    rcases List.mem_cons.mp hc with rfl | hc
    · exact read_birdhouse_ne (by decide) _ s _
    rcases List.mem_cons.mp hc with rfl | hc
    · exact read_birdhouse_ne (by decide) _ s _
    obtain rfl := List.mem_singleton.mp hc
    exact read_birdhouse_ne (by decide) _ s _
  obtain ⟨hundoes, hread, hmocked⟩ := nesting_undone birdhouse
    (.around outer (.around inner .done .done) (.around last .done .done))
    ⟨houter, ⟨hinner, trivial, trivial⟩, hlast, trivial, trivial⟩
    ⟨by decide, hunseen, by decide⟩
  obtain ⟨-, ⟨⟨p, hp, -, hanswer⟩, -⟩, -⟩ := hundoes
  have hown : (birdhouse.act outer.action).own
      ((birdhouse.act outer.action).registry inner.id).home inner.name =
        some (.item 8 .resettable) := by decide +kernel
  obtain rfl := Option.some.inj (hown.symm.trans hp)
  have hrun : actAll (Nesting.around outer (.around inner .done .done)
      (.around last .done .done)).actions birdhouse = w' := rfl
  have hunmock : (w₂.unmock 1 "fetch").2 = .ok (.item 8 .resettable) := hanswer
  rw [hrun] at hread hmocked
  refine ⟨by decide +kernel, by decide +kernel, hunmock, hread, fun i name => ?_⟩
  exact (hmocked i name).1

/-- In a module that is not named, a single bracket does not even begin. -/
theorem not_undoes_of_misnamed :
    ¬ ∀ (w : World) (c : Call), c.name ≠ nameKey →
      (w.own (w.registry c.id).home c.name).isSome → (w.registry c.id).isMocked c.name = false →
      (∀ s, w.Follows (w.registry c.id) c.name s → w.Accepts s) → c.standIn.isScalar = false →
      (∀ s, w.read s c.name ≠ some (.held c.standIn)) →
      (Nesting.around c .done .done).Undoes w := by
  intro h
  have haccept : ∀ s ∈ misnamedBirdhouse.targets (misnamedBirdhouse.registry 0),
      misnamedBirdhouse.Accepts s := by decide +kernel
  obtain ⟨⟨p, -, hmock, -⟩, -⟩ := h misnamedBirdhouse ⟨0, "fetch", .item 8 .resettable⟩ (by decide)
    (by decide) (by decide) (fun s hs => haccept s (mem_targets_of_follows hs)) rfl
    fun s => read_misnamedBirdhouse_ne (by decide) (by decide) .resettable s "fetch"
  exact nomatch hmock

end World

end Standin
