/-
What is asked to reset itself when all mocked names are reset.

A registry goes through its mocked names in the order in which they were mocked.  What it asks
to reset itself is not what was put in place when a name was mocked, but what is read under the
name now: the module may have been given another object since, or may have lost the name, and
then the first alias counts that has one.  An object that cannot be asked is passed by.  So an
object is asked as often as there are mocked names under which it is read, and one that stands
under other names only is not asked at all.

To be asked is all that happens to an object, and no space and no record is touched by it.  So
each step finds the world as the first one did, apart from the events, and the objects that are
`due` can be told at the start (`resetEach_asked`).  The first one that fails is the last one that
is asked (`Asked`).
-/
import Standin.Proofs.Declined

set_option autoImplicit false

namespace Standin.World

/-! ## What is due -/

/-- The object that a registry reads under a name, if it can be asked to reset itself. -/
def resettable? (w : World) (r : Registry) (name : String) : Option Object :=
  match w.valueOf r name with
  | some (.held o) => if o.isResettable then some o else none
  | _ => none

/-- The names of a list under which an object is read that can be asked to reset itself, in order,
each with that object. -/
def due (w : World) (r : Registry) (names : List String) : List (String × Object) :=
  names.filterMap fun name => (w.resettable? r name).map (name, ·)

/-- The events of asking objects to reset themselves, one after another. -/
def askings (asked : List (String × Object)) : List Event := asked.map fun e => .reset e.2

/-- The world after objects have been asked to reset themselves. -/
def ask (w : World) (asked : List (String × Object)) : World :=
  { w with events := w.events ++ askings asked }

/-- That of the objects that are due just these are asked, with this outcome: all of them, if none
fails, and otherwise those up to the first that fails. -/
inductive Asked : List (String × Object) → List (String × Object) → Except Failure Unit → Prop where
  | all {due : List (String × Object)} (h : ∀ e ∈ due, e.2.failsToReset = false) :
    Asked due due (.ok ())
  | upTo {before after : List (String × Object)} {name : String} {o : Object}
    (h : ∀ e ∈ before, e.2.failsToReset = false) (ho : o.failsToReset = true) :
    Asked (before ++ (name, o) :: after) (before ++ [(name, o)]) (.error (.reset o))

section Due

variable {w : World} {r : Registry} {name : String} {o : Object}

theorem resettable?_eq_some_iff :
    w.resettable? r name = some o ↔
      w.valueOf r name = some (.held o) ∧ o.isResettable = true := by
  unfold resettable?
  split
  · next p hvalue =>
    by_cases hp : p.isResettable = true
    · rw [if_pos hp, hvalue]
      constructor
      · intro h
        cases h
        exact ⟨rfl, hp⟩
      · rintro ⟨h, -⟩
        cases h
        rfl
    · rw [if_neg hp, hvalue]
      constructor
      · intro h
        cases h
      · rintro ⟨h, ho⟩
        cases h
        exact absurd ho hp
  · next hnot =>
    constructor
    · intro h
      cases h
    · rintro ⟨h, -⟩
      exact absurd h (hnot o)

theorem mem_due {names : List String} :
    (name, o) ∈ w.due r names ↔
      name ∈ names ∧ w.valueOf r name = some (.held o) ∧ o.isResettable = true := by
  unfold due
  rw [List.mem_filterMap, ← resettable?_eq_some_iff]
  constructor
  · rintro ⟨n, hn, h⟩
    obtain ⟨p, hp, hpair⟩ := Option.map_eq_some_iff.mp h
    cases hpair
    exact ⟨hn, hp⟩
  · rintro ⟨hname, h⟩
    exact ⟨name, hname, by rw [h]; rfl⟩

theorem due_cons (rest : List String) :
    w.due r (name :: rest) = ((w.resettable? r name).map (name, ·)).toList ++ w.due r rest := by
  unfold due
  rw [List.filterMap_cons]
  cases w.resettable? r name <;> rfl

/-- The names of what is due keep their order. -/
theorem map_fst_due_sublist (names : List String) :
    ((w.due r names).map Prod.fst).Sublist names := by
  induction names with
  | nil => exact List.Sublist.slnil
  | cons name rest ih =>
      rw [due_cons]
      cases w.resettable? r name with
      | none => exact ih.cons name
      | some o => exact ih.cons_cons name

/-- An object is due as often as there are names under which it is read, if it can be asked. -/
theorem count_due (ho : o.isResettable = true) (names : List String) :
    ((w.due r names).map Prod.snd).count o =
      names.countP fun name => w.valueOf r name = some (.held o) := by
  induction names with
  | nil => rfl
  | cons name rest ih =>
      rw [due_cons, List.map_append, List.count_append, ih, List.countP_cons, Nat.add_comm]
      congr 1
      by_cases hvalue : w.valueOf r name = some (.held o)
      · rw [resettable?_eq_some_iff.mpr ⟨hvalue, ho⟩]
        simp [hvalue]
      · -- Another object may be due under the name, but not this one.
        have hother : w.resettable? r name ≠ some o := fun h =>
          hvalue (resettable?_eq_some_iff.mp h).1
        cases hdue : w.resettable? r name with
        | none => simp [hvalue]
        | some p =>
            have hne : p ≠ o := fun hp => hother (hdue.trans (congrArg some hp))
            simp [hvalue, hne]

/-- What was asked to reset itself does not count for what is due. -/
theorem due_ask (asked : List (String × Object)) (names : List String) :
    (w.ask asked).due r names = w.due r names := rfl

end Due

/-! ## Going through the names -/

namespace Asked

variable {due asked : List (String × Object)} {outcome : Except Failure Unit} {name : String}
  {o : Object}

theorem first (ho : o.failsToReset = true) :
    Asked ((name, o) :: due) [(name, o)] (.error (.reset o)) :=
  .upTo (fun _ he => absurd he List.not_mem_nil) ho

/-- If the first object does not fail, the others are asked after it. -/
theorem cons (ho : o.failsToReset = false) (h : Asked due asked outcome) :
    Asked ((name, o) :: due) ((name, o) :: asked) outcome := by
  cases h with
  | all h => exact .all (List.forall_mem_cons.mpr ⟨ho, h⟩)
  | upTo h hlast => exact .upTo (List.forall_mem_cons.mpr ⟨ho, h⟩) hlast

/-- The outcome tells whether something that is due fails. -/
theorem eq_ok_iff (h : Asked due asked outcome) :
    outcome = .ok () ↔ ∀ e ∈ due, e.2.failsToReset = false := by
  cases h with
  | all h => exact iff_of_true rfl h
  | @upTo before after name o h ho =>
      refine iff_of_false (fun hok => ?_) fun hnone => ?_
      · cases hok
      · have hmem : (name, o) ∈ before ++ (name, o) :: after :=
          List.mem_append_right _ List.mem_cons_self
        exact Bool.false_ne_true ((hnone _ hmem).symm.trans ho)

/-- If none fails, all that is due is asked. -/
theorem eq_due (h : Asked due asked outcome) (hok : outcome = .ok ()) : asked = due := by
  cases h with
  | all h => rfl
  | upTo h ho => cases hok

/-- Only what is due is asked. -/
theorem sublist (h : Asked due asked outcome) : asked.Sublist due := by
  cases h with
  | all h => exact .refl _
  | upTo h ho =>
      refine (List.Sublist.refl _).append ?_
      exact List.singleton_sublist.mpr List.mem_cons_self

end Asked

/-- What is read under a name is asked, if it can be. -/
theorem resetValue_eq (w : World) (r : Registry) (name : String) :
    w.resetValue r name =
      match w.resettable? r name with
      | none => (w, .ok ())
      | some o =>
        (w.ask [(name, o)], if o.failsToReset then .error (.reset o) else .ok ()) := by
  unfold resetValue resettable?
  split
  · next h => rw [h]
  · next f h => rw [h]
  · next o h =>
    rw [h]
    unfold resetObject
    dsimp only
    split <;> rfl

/-- **Going through a list of names**: the objects that are due at the start are asked, up to the
first that fails, and nothing else happens.  The induction is on the names; the events of the first
one come before those of the rest. -/
theorem resetEach_asked (r : Registry) (names : List String) (w : World) :
    ∃ asked, Asked (w.due r names) asked (resetEach r names w).2 ∧
      (resetEach r names w).1 = w.ask asked := by
  induction names generalizing w with
  | nil =>
      refine ⟨[], .all fun e he => absurd he List.not_mem_nil, ?_⟩
      simp [resetEach, ask, askings]
  | cons name rest ih =>
      rw [resetEach, resetValue_eq, due_cons]
      cases w.resettable? r name with
      | none => exact ih w
      | some o =>
          dsimp only [Option.map_some, Option.toList_some]
          by_cases hfails : o.failsToReset = true
          · rw [if_pos hfails]
            exact ⟨[(name, o)], .first hfails, rfl⟩
          · rw [if_neg hfails]
            obtain ⟨asked, hasked, hworld⟩ := ih (w.ask [(name, o)])
            rw [due_ask] at hasked
            refine ⟨(name, o) :: asked, .cons (Bool.eq_false_iff.mpr hfails) hasked, ?_⟩
            refine hworld.trans ?_
            simp [ask, askings]

/-- Being asked is counted. -/
theorem resetCount_ask (w : World) (asked : List (String × Object)) (o : Object) :
    (w.ask asked).resetCount o = w.resetCount o + (asked.map Prod.snd).count o := by
  have hcount : (askings asked).count (.reset o) = (asked.map Prod.snd).count o := by
    unfold askings
    rw [List.count_eq_countP, List.count_eq_countP, List.countP_map, List.countP_map]
    refine List.countP_congr fun e _ => ?_
    simp
  unfold resetCount ask
  rw [List.count_append, hcount]

/-- **What is asked to reset itself when all mocked names are reset**, in whatever state.  Due are
the mocked names that are bound, now, to an object that can be asked, in the order in which they
were mocked.  If no object of these fails, all of them are asked, each once for each of its names,
and the operation succeeds; otherwise just those up to the first that fails, with whose failure the
operation ends.  An object that no mocked name is read as is not asked.  In any case nothing else
happens: the world is the same but for these events, with all that spaces hold and registries have
on record. -/
theorem resetAll_asked (w : World) (id : RegistryId) :
    let r := w.registry id
    let due := w.due r r.replaced.names
    let result := w.resetAll id
    (∀ name o, (name, o) ∈ due ↔ r.isMocked name = true ∧ w.valueOf r name = some (.held o) ∧
        o.isResettable = true) ∧
      (due.map Prod.fst).Sublist r.replaced.names ∧
      (∃ asked, Asked due asked result.2 ∧
        result.1 = { w with events := w.events ++ asked.map fun e => .reset e.2 }) ∧
      (result.2 = .ok () → ∀ o, o.isResettable = true → result.1.resetCount o =
        w.resetCount o + r.replaced.names.countP fun name => w.valueOf r name = some (.held o)) ∧
      ∀ o, (∀ name, r.isMocked name = true → w.valueOf r name ≠ some (.held o)) →
        result.1.resetCount o = w.resetCount o := by
  intro r due result
  obtain ⟨asked, hasked, hworld⟩ := resetEach_asked r r.replaced.names w
  have hmocked : ∀ name, name ∈ r.replaced.names ↔ r.isMocked name = true :=
    Table.mem_names_iff r.replaced
  refine ⟨fun name o => ?_, map_fst_due_sublist _, ⟨asked, hasked, hworld⟩, fun hok o ho => ?_,
    fun o hnot => ?_⟩
  · rw [← hmocked]
    exact mem_due
  · rw [show result.1 = w.ask asked from hworld, resetCount_ask, hasked.eq_due hok, count_due ho]
  · -- Whatever is asked is read under one of the mocked names.
    have hnone : o ∉ asked.map Prod.snd := by
      intro hmem
      obtain ⟨⟨name, p⟩, hp, rfl⟩ := List.mem_map.mp hmem
      obtain ⟨hname, hvalue, -⟩ := mem_due.mp (hasked.sublist.mem hp)
      exact hnot name ((hmocked name).mp hname) hvalue
    rw [show result.1 = w.ask asked from hworld, resetCount_ask, List.count_eq_zero.mpr hnone]
    rfl

/-- A stand-in that two names were given is asked twice, and the function that they had before is
not asked.  When the module has lost one of the names, and an alias has a stand-in under it that fails,
both are asked, and the operation fails. -/
theorem resetAll_asked_birdhouse :
    let x : Object := .item 9 .resettable
    let y : Object := .item 10 .fragile
    let w := actAll [.operate 0 (.mock "helper" (some x)), .operate 0 (.mock "fetch" (some x))]
      (birdhouse.addAlias 0 2)
    let moved := actAll [.drop 0 "fetch", .put 2 "fetch" y] w
    (w.resetAll 0).2 = .ok () ∧ (w.resetAll 0).1.resetCount x = 2 ∧
      (w.resetAll 0).1.resetCount fetch = 0 ∧
      (moved.resetAll 0).2 ≠ .ok () ∧
      (moved.resetAll 0).1.events = moved.events ++ [.reset x, .reset y] := by
  intro x y w moved
  obtain ⟨-, -, ⟨asked, hasked, -⟩, hcount, hspared⟩ := resetAll_asked w 0
  obtain ⟨-, -, ⟨asked', hasked', hworld⟩, -, -⟩ := resetAll_asked moved 0
  have hdue : w.due (w.registry 0) (w.registry 0).replaced.names =
      [("helper", x), ("fetch", x)] := by decide +kernel
  have hdue' : moved.due (moved.registry 0) (moved.registry 0).replaced.names =
      [("helper", x), ("fetch", y)] := by decide +kernel
  rw [hdue] at hasked
  rw [hdue'] at hasked'
  have hok : (w.resetAll 0).2 = .ok () := hasked.eq_ok_iff.mpr (by decide)
  have hnames : (w.registry 0).replaced.names = ["helper", "fetch"] := by decide +kernel
  -- Two objects were asked, and those that are due are two.
  have htwo : asked'.length = 2 := by
    have hevents : (moved.resetAll 0).1.events.length = moved.events.length + 2 := by
      decide +kernel
    rw [hworld, List.length_append, List.length_map] at hevents
    exact Nat.add_left_cancel hevents
  obtain rfl : asked' = [("helper", x), ("fetch", y)] := hasked'.sublist.eq_of_length htwo
  refine ⟨hok, (hcount hok x rfl).trans (by decide +kernel), ?_,
    mt hasked'.eq_ok_iff.mp (by decide), congrArg World.events hworld⟩
  refine (hspared fetch fun name hname => ?_).trans (by decide +kernel)
  rw [Registry.isMocked, Table.has, ← Table.mem_names_iff, hnames] at hname
  rcases List.mem_cons.mp hname with rfl | hname
  · decide +kernel
  · rw [List.mem_singleton.mp hname]
    decide +kernel

end Standin.World
