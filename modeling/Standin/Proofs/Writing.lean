/-
What a write of a registry changes.

A registry writes through `sync` and `install`.  Both work through a list of spaces, write
those that await the object, and end at the first that refuses.  There is no going back: the
spaces before that one keep the new object.  `sync_handed` and `install_handed` say so
exactly, whatever comes of it: the list is cut in two, those before the cut that awaited the
object got it and accept, and the cut is at the end of the list or at a space that awaited
it and refuses.  There is one other end: where the packages around the module cannot be
looked for, as the module is not `Named`, it comes right after the module itself
(`install_misnamed_iff`).

All else about writes is read off from there.  A write stays `Within` its name: all that
spaces hold under other names, what they inherit, whether they refuse, and the loaded
modules are as before, and nothing is taken away (`install_within`).  And where the spaces
accept and the packages can be looked for, the spaces that are visited and await the object
get it (`install_received`); unless the name is that of the module, these are the spaces that
`Follow` it (`install_accepted`).

A space may stand several times in the list that is worked through, or be the
module's own one: once written it reads as the new object, so that a second visit
either passes it by or writes the same object again.
-/
import Standin.Registry.Operation

set_option autoImplicit false

namespace Standin.World

/-! ## What a space holds, and what is read from it -/

theorem own_put (w : World) (s : SpaceId) (name : String) (o : Object) (t : SpaceId)
    (other : String) :
    (w.put s name o).own t other =
      if t = s ∧ other = name then some o else w.own t other := by
  by_cases ht : t = s
  · subst ht
    simp [own, put, setSpace, Space.put, Table.get?_put]
  · simp [own, put, setSpace, ht]

@[simp] theorem own_note (w : World) (e : Event) (s : SpaceId) (name : String) :
    (w.note e).own s name = w.own s name := rfl

/-- What a space holds itself after a registry wrote. -/
theorem own_assign {w w' : World} {own : Bool} {s : SpaceId} {name : String} {o : Object}
    (h : w.assign own s name o = .ok w') (t : SpaceId) (other : String) :
    w'.own t other = if t = s ∧ other = name then some o else w.own t other := by
  unfold assign at h
  split at h
  · cases h
  · injection h with h
    subst h
    exact own_put w s name o t other

/-- What is read goes by what a space holds itself, and else by what it inherits. -/
theorem read_congr {w w' : World} {s : SpaceId} {name : String}
    (hown : w'.own s name = w.own s name)
    (hinherited : (w'.space s).inherited = (w.space s).inherited) :
    w'.read s name = w.read s name := by
  unfold own at hown
  unfold read Space.get?
  rw [hown, hinherited]

/-- That a space accepts every write. -/
def Accepts (w : World) (s : SpaceId) : Prop := (w.space s).refusal = none

instance (w : World) (s : SpaceId) : Decidable (w.Accepts s) :=
  inferInstanceAs (Decidable ((w.space s).refusal = none))

/-- A space that accepts is written. -/
theorem assign_of_accepts {w : World} {s : SpaceId} (h : w.Accepts s) (own : Bool)
    (name : String) (o : Object) :
    w.assign own s name o = .ok ((w.put s name o).note (.write s name o own)) := by
  unfold assign
  unfold Accepts at h
  rw [h]

/-- The packages around a module depend on what it holds under its own name, and on the loaded
modules. -/
theorem ancestors_congr {w w' : World} {r : Registry}
    (hown : w'.own r.home nameKey = w.own r.home nameKey) (hloaded : w'.loaded = w.loaded) :
    w'.ancestors r = w.ancestors r := by
  have hmodule : w'.module? = w.module? := by
    funext name
    unfold module?
    rw [hloaded]
  unfold ancestors moduleName
  rw [hown, hmodule]

/-- They stay the same unless the name of a module is written. -/
theorem ancestors_put {w : World} {r : Registry} {s : SpaceId} {name : String} {o : Object}
    (hname : name ≠ nameKey) : (w.put s name o).ancestors r = w.ancestors r := by
  refine ancestors_congr ?_ rfl
  rw [own_put, if_neg fun hc => hname hc.2.symm]

/-- That a registry's module has a name to find the packages around it by, or none: what is there in
its place is a text or counts as false. -/
def Named (w : World) (r : Registry) : Prop := w.misnomer? r = none

instance (w : World) (r : Registry) : Decidable (w.Named r) :=
  inferInstanceAs (Decidable (w.misnomer? r = none))

/-- A module is named by a text, or has no name, or something in its place that counts as false. -/
theorem named_iff {w : World} {r : Registry} :
    w.Named r ↔ ∀ o, w.own r.home nameKey = some o → o.name?.isSome ∨ o.isTrue = false := by
  unfold Named misnomer?
  rw [Option.filter_eq_none_iff]
  refine forall_congr' fun o => imp_congr_right fun _ => ?_
  cases o.isTrue <;> cases o.name? <;> simp

/-- Whether a module is named depends on what it holds under its own name. -/
theorem misnomer_congr {w w' : World} {r r' : Registry}
    (hown : w'.own r'.home nameKey = w.own r.home nameKey) : w'.misnomer? r' = w.misnomer? r := by
  unfold misnomer?
  rw [hown]

/-- It stays the same unless the name of a module is written. -/
theorem misnomer_put {w : World} {r : Registry} {s : SpaceId} {name : String} {o : Object}
    (hname : name ≠ nameKey) : (w.put s name o).misnomer? r = w.misnomer? r := by
  refine misnomer_congr ?_
  rw [own_put, if_neg fun hc => hname hc.2.symm]

/-! ## Staying within some names -/

/-- `w'` is `w` except for what spaces hold under the names of which `P` holds, for its registries,
for new objects and for events.  Nothing that a space held is taken away. -/
structure Within (P : String → Prop) (w w' : World) : Prop where
  own : ∀ s name, ¬ P name → w'.own s name = w.own s name
  kept : ∀ s name, (w.own s name).isSome → (w'.own s name).isSome
  inherited : ∀ s, (w'.space s).inherited = (w.space s).inherited
  refusal : ∀ s, (w'.space s).refusal = (w.space s).refusal
  loaded : w'.loaded = w.loaded

namespace Within

variable {P Q : String → Prop} {w w' w'' : World}

theorem refl (P : String → Prop) (w : World) : Within P w w :=
  ⟨fun _ _ _ => rfl, fun _ _ h => h, fun _ => rfl, fun _ => rfl, rfl⟩

theorem trans (h : Within P w w') (h' : Within P w' w'') : Within P w w'' where
  own s name hname := (h'.own s name hname).trans (h.own s name hname)
  kept s name hname := h'.kept s name (h.kept s name hname)
  inherited s := (h'.inherited s).trans (h.inherited s)
  refusal s := (h'.refusal s).trans (h.refusal s)
  loaded := h'.loaded.trans h.loaded

theorem mono (hPQ : ∀ name, P name → Q name) (h : Within P w w') : Within Q w w' :=
  { h with own := fun s name hname => h.own s name fun hP => hname (hPQ name hP) }

/-- A change of nothing but registries, new objects and events. -/
theorem of_space_eq (P : String → Prop) (hspace : w'.space = w.space)
    (hloaded : w'.loaded = w.loaded) : Within P w w' where
  own s name _ := by unfold World.own; rw [hspace]
  kept s name h := by unfold World.own at h ⊢; rw [hspace]; exact h
  inherited s := by rw [hspace]
  refusal s := by rw [hspace]
  loaded := hloaded

theorem read (h : Within P w w') (s : SpaceId) {name : String} (hname : ¬ P name) :
    w'.read s name = w.read s name :=
  read_congr (h.own s name hname) (h.inherited s)

theorem accepts (h : Within P w w') {s : SpaceId} (hs : w.Accepts s) : w'.Accepts s :=
  (h.refusal s).trans hs

theorem ancestors (h : Within P w w') (hkey : ¬ P nameKey) {r r' : Registry}
    (hhome : r'.home = r.home) : w'.ancestors r' = w.ancestors r := by
  -- Of the record only the module counts, by whose name the packages are found.
  have hsame : w'.ancestors r' = w'.ancestors r := by
    unfold World.ancestors moduleName
    rw [hhome]
  exact hsame.trans (ancestors_congr (h.own r.home nameKey hkey) h.loaded)

theorem named (h : Within P w w') (hkey : ¬ P nameKey) {r r' : Registry}
    (hhome : r'.home = r.home) (hnamed : w.Named r) : w'.Named r' := by
  refine (misnomer_congr ?_).trans hnamed
  rw [hhome]
  exact h.own r.home nameKey hkey

end Within

/-- A write by a registry stays within its name. -/
theorem assign_within {w w' : World} {own : Bool} {s : SpaceId} {name : String} {o : Object}
    (h : w.assign own s name o = .ok w') : Within (· = name) w w' := by
  unfold assign at h
  split at h
  · cases h
  · injection h with h
    subst h
    have hown := own_put w s name o
    -- A write is a put and an event, and an event shows in no space.
    refine ⟨fun t other hother => ?_, fun t other hheld => ?_, fun t => ?_, fun t => ?_, rfl⟩
    · rw [own_note, hown, if_neg fun hc => hother hc.2]
    · rw [own_note, hown]
      split
      · rfl
      · exact hheld
    · by_cases ht : t = s <;> simp [note, put, setSpace, Space.put, ht]
    · by_cases ht : t = s <;> simp [note, put, setSpace, ht]

theorem registry_assign {w w' : World} {own : Bool} {s : SpaceId} {name : String} {o : Object}
    (h : w.assign own s name o = .ok w') : w'.registry = w.registry := by
  unfold assign at h
  split at h
  · cases h
  · injection h with h
    subst h
    rfl

/-! ## Writes -/

/-- `w'` is `w` with an object put under a name in the spaces of which `P` holds, and nowhere
else. -/
structure Wrote (w w' : World) (name : String) (value : Object) (P : SpaceId → Prop) : Prop
    extends Within (· = name) w w' where
  registry : w'.registry = w.registry
  gets : ∀ s, P s → w'.own s name = some value
  stays : ∀ s, ¬ P s → w'.own s name = w.own s name

namespace Wrote

variable {w w' : World} {name : String} {value : Object} {P Q : SpaceId → Prop}

theorem congr (h : Wrote w w' name value P) (hPQ : ∀ s, P s ↔ Q s) : Wrote w w' name value Q :=
  { h with
    gets := fun s hs => h.gets s ((hPQ s).mpr hs)
    stays := fun s hs => h.stays s fun hP => hs ((hPQ s).mp hP) }

theorem read_of (h : Wrote w w' name value P) {s : SpaceId} (hs : P s) :
    w'.read s name = some (.held value) :=
  read_of_own (h.gets s hs)

theorem read_of_not (h : Wrote w w' name value P) {s : SpaceId} (hs : ¬ P s) :
    w'.read s name = w.read s name :=
  read_congr (h.stays s hs) (h.inherited s)

theorem read_eq (h : Wrote w w' name value P) [DecidablePred P] (s : SpaceId) :
    w'.read s name = if P s then some (.held value) else w.read s name := by
  by_cases hs : P s
  · rw [if_pos hs]
    exact h.read_of hs
  · rw [if_neg hs]
    exact h.read_of_not hs

/-- An object that a space did not read before is read in it exactly if it was written there. -/
theorem read_eq_held_iff (h : Wrote w w' name value P) {s : SpaceId}
    (hfresh : w.read s name ≠ some (.held value)) :
    w'.read s name = some (.held value) ↔ P s := by
  refine ⟨fun hread => Classical.byContradiction fun hnot => ?_, fun hs => h.read_of hs⟩
  rw [h.read_of_not hnot] at hread
  exact hfresh hread

/-- A write leaves the record that was made before it. -/
theorem recorded {id : RegistryId} {r : Registry} (h : Wrote (w.setRegistry id r) w' name value P) :
    w'.registry id = r := by
  rw [h.registry, registry_setRegistry, if_pos rfl]

/-- It leaves the records of other registries too. -/
theorem others {id j : RegistryId} {r : Registry} (h : Wrote (w.setRegistry id r) w' name value P)
    (hj : j ≠ id) : w'.registry j = w.registry j := by
  rw [h.registry, registry_setRegistry, if_neg hj]

end Wrote

/-! ## Spaces that await an object -/

/-- The spaces that `sync` writes: those of the list that read the name, if an object is expected
there as that one. -/
def Awaits (w : World) (name : String) (expected : Option Object) (s : SpaceId) : Prop :=
  ∃ current, w.read s name = some current ∧ ∀ q ∈ expected, current = .held q

section Awaiting

variable {w w' : World} {name : String} {expected : Option Object} {s : SpaceId}

theorem awaits_iff_all {current : Sight} (hread : w.read s name = some current) :
    w.Awaits name expected s ↔ expected.all (current == .held ·) = true := by
  unfold Awaits
  cases expected <;> simp [hread]

theorem not_awaits_of_not_read (hread : w.read s name = none) : ¬ w.Awaits name expected s := by
  rintro ⟨current, hcurrent, -⟩
  rw [hread] at hcurrent
  cases hcurrent

instance (w : World) (name : String) (expected : Option Object) (s : SpaceId) :
    Decidable (w.Awaits name expected s) :=
  match h : w.read s name with
  | none => isFalse (not_awaits_of_not_read h)
  | some _ => decidable_of_iff _ (awaits_iff_all h).symm

/-- What a space awaits goes by what it reads. -/
theorem awaits_congr (hread : w'.read s name = w.read s name) :
    w'.Awaits name expected s ↔ w.Awaits name expected s := by
  unfold Awaits
  rw [hread]

theorem awaits_some_iff {q : Object} :
    w.Awaits name (some q) s ↔ w.read s name = some (.held q) := by
  simp [Awaits]

theorem awaits_none_iff : w.Awaits name none s ↔ (w.read s name).isSome := by
  rw [Option.isSome_iff_exists]
  simp [Awaits]

end Awaiting

/-! ## Working through a list up to an obstacle -/

/-- That `w'` comes from `w` by putting an object under a name in those spaces of a list that await
it, up to an obstacle: `reached` is what comes before it.  If a space refuses, `rest` begins with
it, and where there is no obstacle there is no rest.  The packages are looked for after the first
space. -/
structure Handed (w w' : World) (name : String) (value : Object) (expected : Option Object)
    (reached rest : List SpaceId) (obstacle? : Option Obstacle) : Prop
    extends Wrote w w' name value fun s => s ∈ reached ∧ w.Awaits name expected s where
  accepted : ∀ s ∈ reached, w.Awaits name expected s → w.Accepts s
  ended : match obstacle? with
    | none => rest = []
    | some (.refused refusal) => ∃ s later, rest = s :: later ∧ w.Awaits name expected s ∧
        (w.space s).refusal = some refusal
    | some (.misnamed _) => reached ≠ []

section Handing

variable {w w₁ w' : World} {name : String} {value : Object} {expected : Option Object}
  {s : SpaceId} {reached rest : List SpaceId} {obstacle? : Option Obstacle}

/-- A space that was written accepts. -/
theorem accepts_of_assign {w' : World} {own : Bool} (h : w.assign own s name value = .ok w') :
    w.Accepts s := by
  unfold assign at h
  split at h
  · cases h
  · rename_i hrefusal
    exact hrefusal

/-- A space that was not written refuses. -/
theorem refusal_of_assign {own : Bool} {refusal : Refusal}
    (h : w.assign own s name value = .error refusal) : (w.space s).refusal = some refusal := by
  unfold assign at h
  split at h
  · rename_i hrefusal
    cases h
    exact hrefusal
  · cases h

namespace Handed

theorem nil (w : World) (name : String) (value : Object) (expected : Option Object) :
    Handed w w name value expected [] [] none where
  toWithin := .refl _ w
  registry := rfl
  gets _ hs := absurd hs.1 List.not_mem_nil
  stays _ _ := rfl
  accepted _ hs := absurd hs List.not_mem_nil
  ended := rfl

/-- Where the first space refuses, nothing is written. -/
theorem refused {refusal : Refusal} (hawaits : w.Awaits name expected s)
    (hrefusal : (w.space s).refusal = some refusal) (later : List SpaceId) :
    Handed w w name value expected [] (s :: later) (some (.refused refusal)) :=
  { nil w name value expected with ended := ⟨s, later, rfl, hawaits, hrefusal⟩ }

/-- Where the packages cannot be looked for, nothing more is written. -/
theorem misnamed (h : Handed w w' name value expected [s] [] none) (later : List SpaceId)
    (o : Object) : Handed w w' name value expected [s] later (some (.misnamed o)) :=
  { h with ended := List.cons_ne_nil s [] }

/-- A space that does not await the object is passed by. -/
theorem skip (hnot : ¬ w.Awaits name expected s)
    (h : Handed w w' name value expected reached rest obstacle?) :
    Handed w w' name value expected (s :: reached) rest obstacle? := by
  have hmem : ∀ t, w.Awaits name expected t → (t ∈ s :: reached ↔ t ∈ reached) := by
    intro t hawait
    have hts : t ≠ s := fun hc => hnot (hc ▸ hawait)
    rw [List.mem_cons]
    exact or_iff_right hts
  refine ⟨h.toWrote.congr fun t => ?_, fun t ht hawait => ?_, ?_⟩
  · exact and_congr_left fun hawait => (hmem t hawait).symm
  · exact h.accepted t ((hmem t hawait).mp ht) hawait
  · match obstacle?, h.ended with
    | none, hended => exact hended
    | some (.refused _), hended => exact hended
    | some (.misnamed _), _ => exact List.cons_ne_nil s reached

/-- A space that awaits the object and accepts is written, and then the list is worked through. -/
theorem cons {own : Bool} (hassign : w.assign own s name value = .ok w₁)
    (hawaits : w.Awaits name expected s)
    (h : Handed w₁ w' name value expected reached rest obstacle?) :
    Handed w w' name value expected (s :: reached) rest obstacle? := by
  have haccepts := accepts_of_assign hassign
  have hwithin := assign_within hassign
  have hsame : ∀ t, t ≠ s → (w₁.Awaits name expected t ↔ w.Awaits name expected t) := by
    intro t ht
    refine awaits_congr ?_
    rw [read_assign hassign, if_neg fun hc => ht hc.1]
  have htail : ∀ t, t ≠ s → t ∈ s :: reached → t ∈ reached := fun t ht hmem =>
    (List.mem_cons.mp hmem).resolve_left ht
  refine ⟨⟨hwithin.trans h.toWithin, h.registry.trans (registry_assign hassign), fun t ht => ?_,
    fun t ht => ?_⟩, fun t ht hawait => ?_, ?_⟩
  · -- What was written first keeps the object, whether it comes again or not.
    by_cases hagain : t ∈ reached ∧ w₁.Awaits name expected t
    · exact h.gets t hagain
    · have hts : t = s := by
        refine Classical.byContradiction fun hne => hagain ⟨htail t hne ht.1, ?_⟩
        exact (hsame t hne).mpr ht.2
      rw [h.stays t hagain, hts, own_assign hassign, if_pos ⟨rfl, rfl⟩]
  · have hts : t ≠ s := fun hc => ht ⟨hc ▸ List.mem_cons_self, hc ▸ hawaits⟩
    rw [h.stays t fun hc => ht ⟨List.mem_cons_of_mem s hc.1, (hsame t hts).mp hc.2⟩,
      own_assign hassign, if_neg fun hc => hts hc.1]
  · by_cases hts : t = s
    · rw [hts]
      exact haccepts
    · have haccept := h.accepted t (htail t hts ht) ((hsame t hts).mpr hawait)
      exact (hwithin.refusal t).symm.trans haccept
  · match obstacle?, h.ended with
    | none, hended => exact hended
    | some (.misnamed _), _ => exact List.cons_ne_nil s reached
    | some (.refused refusal), hended =>
        obtain ⟨t, later, hrest, hawait, hrefusal⟩ := hended
        rw [hwithin.refusal t] at hrefusal
        -- The space that was written accepts, so that it is not the one that refuses.
        have hts : t ≠ s := by
          intro hc
          rw [hc, haccepts] at hrefusal
          cases hrefusal
        exact ⟨t, later, hrest, (hsame t hts).mp hawait, hrefusal⟩

/-- Where all that await the object accept, and nothing else was in the way, the whole list was
worked through. -/
theorem all (h : Handed w w' name value expected reached rest obstacle?)
    (hnamed : ∀ o, obstacle? ≠ some (.misnamed o))
    (haccept : ∀ s ∈ rest, w.Awaits name expected s → w.Accepts s) :
    obstacle? = none ∧ rest = [] := by
  match obstacle?, h.ended with
  | none, hended => exact ⟨rfl, hended⟩
  | some (.misnamed o), _ => exact absurd rfl (hnamed o)
  | some (.refused refusal), hended =>
      obtain ⟨s, later, rfl, hawaits, hrefusal⟩ := hended
      have haccepts : (w.space s).refusal = none := haccept s List.mem_cons_self hawaits
      rw [hrefusal] at haccepts
      cases haccepts

end Handed

end Handing

/-- **Working through a list of spaces**, whatever comes of it.  The induction is on the list, with
one lemma for each thing that can happen at a space. -/
theorem sync_handed (name : String) (value : Object) (expected : Option Object)
    (spaces : List SpaceId) (w : World) :
    ∃ reached rest, spaces = reached ++ rest ∧
      Handed w (sync name value expected spaces w).1 name value expected reached rest
        ((sync name value expected spaces w).2.map .refused) := by
  fun_induction sync name value expected spaces w with
  | case1 w => exact ⟨[], [], rfl, .nil w name value expected⟩
  | case2 s spaces w hread ih =>
      obtain ⟨reached, rest, hlist, hhanded⟩ := ih
      exact ⟨s :: reached, rest, congrArg (s :: ·) hlist,
        hhanded.skip (not_awaits_of_not_read hread)⟩
  | case3 s spaces w current hread hexpected refusal hassign =>
      have hawaits := (awaits_iff_all hread).mpr hexpected
      exact ⟨[], s :: spaces, rfl, .refused hawaits (refusal_of_assign hassign) spaces⟩
  | case4 s spaces w current hread hexpected w₁ hassign ih =>
      obtain ⟨reached, rest, hlist, hhanded⟩ := ih
      exact ⟨s :: reached, rest, congrArg (s :: ·) hlist,
        hhanded.cons hassign ((awaits_iff_all hread).mpr hexpected)⟩
  | case5 s spaces w current hread hexpected ih =>
      obtain ⟨reached, rest, hlist, hhanded⟩ := ih
      exact ⟨s :: reached, rest, congrArg (s :: ·) hlist,
        hhanded.skip fun hawaits => hexpected ((awaits_iff_all hread).mp hawaits)⟩

/-! ## Replacing a name -/

/-- The spaces that a registry may write: its module's own, the aliases, the packages around. -/
def targets (w : World) (r : Registry) : List SpaceId := r.home :: (r.aliases ++ w.ancestors r)

/-- The spaces that get the new object when a name of a module is replaced.  If the module holds
the name: its own space, and those aliases and, unless a scalar is replaced, packages that read the
very object the module holds.  Else: the aliases that read the name. -/
def Follows (w : World) (r : Registry) (name : String) (s : SpaceId) : Prop :=
  match w.own r.home name with
  | some previous =>
    s = r.home ∨ (s ∈ r.aliases ∨ previous.isScalar = false ∧ s ∈ w.ancestors r) ∧
      w.read s name = some (.held previous)
  | none => s ∈ r.aliases ∧ (w.read s name).isSome

theorem follows_of_own {w : World} {r : Registry} {name : String} {previous : Object}
    (h : w.own r.home name = some previous) (s : SpaceId) :
    w.Follows r name s ↔
      s = r.home ∨ (s ∈ r.aliases ∨ previous.isScalar = false ∧ s ∈ w.ancestors r) ∧
        w.read s name = some (.held previous) := by
  unfold Follows
  rw [h]

theorem follows_of_not_own {w : World} {r : Registry} {name : String}
    (h : w.own r.home name = none) (s : SpaceId) :
    w.Follows r name s ↔ s ∈ r.aliases ∧ (w.read s name).isSome := by
  unfold Follows
  rw [h]

/-- If the module holds the name, the spaces that follow read what it holds. -/
theorem read_of_follows {w : World} {r : Registry} {name : String} {previous : Object}
    (hown : w.own r.home name = some previous) {s : SpaceId} (h : w.Follows r name s) :
    w.read s name = some (.held previous) := by
  rcases (follows_of_own hown s).mp h with rfl | ⟨-, hread⟩
  · exact read_of_own hown
  · exact hread

instance (w : World) (r : Registry) (name : String) (s : SpaceId) :
    Decidable (w.Follows r name s) :=
  match h : w.own r.home name with
  | some _ => decidable_of_iff _ (follows_of_own h s).symm
  | none => decidable_of_iff _ (follows_of_not_own h s).symm

/-- Only targets follow. -/
theorem mem_targets_of_follows {w : World} {r : Registry} {name : String} {s : SpaceId}
    (h : w.Follows r name s) : s ∈ w.targets r := by
  unfold targets
  cases hown : w.own r.home name with
  | none =>
      rw [follows_of_not_own hown] at h
      exact List.mem_cons_of_mem _ (List.mem_append_left _ h.1)
  | some previous =>
      rw [follows_of_own hown] at h
      rcases h with rfl | ⟨halias | ⟨-, hpackage⟩, -⟩
      · exact List.mem_cons_self
      · exact List.mem_cons_of_mem _ (List.mem_append_left _ halias)
      · exact List.mem_cons_of_mem _ (List.mem_append_right _ hpackage)

section Install

variable {w w' : World} {r : Registry} {name : String} {value : Object}

/-- A name that the module does not hold is written to the aliases. -/
theorem install_of_not_own (hown : w.own r.home name = none) :
    w.install r name value = (sync name value none r.aliases w).map id (Option.map .refused) := by
  rw [install, hown]

/-- If the module's own space refuses, nothing happens. -/
theorem install_of_refused {previous : Object} {refusal : Refusal}
    (hown : w.own r.home name = some previous)
    (hassign : w.assign true r.home name value = .error refusal) :
    w.install r name value = (w, some (.refused refusal)) := by
  rw [install, hown]
  simp only [hassign]

/-- A name that the module holds is written to the module's own space first; then the packages are
looked for. -/
theorem install_of_found {w₁ : World} {previous : Object} {packages : List SpaceId}
    (hown : w.own r.home name = some previous)
    (hassign : w.assign true r.home name value = .ok w₁)
    (hpackages : w₁.packagesFor r previous = .ok packages) :
    w.install r name value =
      (sync name value (some previous) (r.aliases ++ packages) w₁).map id
        (Option.map .refused) := by
  rw [install, hown]
  simp only [hassign, hpackages]

/-- If they cannot be looked for, this is all that happens. -/
theorem install_of_not_found {w₁ : World} {previous o : Object}
    (hown : w.own r.home name = some previous)
    (hassign : w.assign true r.home name value = .ok w₁)
    (hpackages : w₁.packagesFor r previous = .error o) :
    w.install r name value = (w₁, some (.misnamed o)) := by
  rw [install, hown]
  simp only [hassign, hpackages]

/-- The packages that are found. -/
theorem eq_of_packagesFor_ok {previous : Object} {packages : List SpaceId}
    (h : w.packagesFor r previous = .ok packages) :
    packages = if previous.isScalar then [] else w.ancestors r := by
  unfold packagesFor at h
  split at h
  · rename_i hscalar
    rw [if_pos hscalar]
    exact (Except.ok.inj h).symm
  · rename_i hscalar
    rw [if_neg hscalar]
    split at h
    · cases h
    · exact (Except.ok.inj h).symm

/-- They are found if they need not be looked for or the module is named. -/
theorem packagesFor_of_named {previous : Object}
    (hnamed : previous.isScalar = false → w.Named r) :
    w.packagesFor r previous = .ok (if previous.isScalar then [] else w.ancestors r) := by
  unfold packagesFor
  split
  · rfl
  · rename_i hscalar
    rw [hnamed (Bool.eq_false_iff.mpr hscalar)]

/-- No packages are found where they are looked for in a module that is not named. -/
theorem packagesFor_eq_error_iff {previous o : Object} :
    w.packagesFor r previous = .error o ↔
      previous.isScalar = false ∧ w.misnomer? r = some o := by
  unfold packagesFor
  cases previous.isScalar <;> cases w.misnomer? r <;> simp

/-- The spaces that are visited when a name is replaced, in order.  If the module holds the name:
its own space, the aliases and, unless a scalar is replaced, the packages around the module, which
are looked up after the module was written.  Else: the aliases. -/
def visited (w : World) (r : Registry) (name : String) (value : Object) : List SpaceId :=
  match w.own r.home name with
  | some previous =>
    r.home :: (r.aliases ++
      if previous.isScalar then [] else (w.put r.home name value).ancestors r)
  | none => r.aliases

/-- The visited spaces where the module holds the name. -/
theorem mem_visited_of_own {previous : Object} (hown : w.own r.home name = some previous)
    {s : SpaceId} :
    s ∈ w.visited r name value ↔ s = r.home ∨ s ∈ r.aliases ∨
      previous.isScalar = false ∧ s ∈ (w.put r.home name value).ancestors r := by
  unfold visited
  rw [hown]
  cases hscalar : previous.isScalar <;> simp [hscalar]

/-- The visited spaces where it does not. -/
theorem visited_of_not_own (hown : w.own r.home name = none) :
    w.visited r name value = r.aliases := by
  unfold visited
  rw [hown]

/-- A module that holds the name comes first. -/
theorem home_mem_of_mem {previous : Object} (hown : w.own r.home name = some previous)
    {reached rest : List SpaceId} (hvisited : w.visited r name value = reached ++ rest)
    {s : SpaceId} (hs : s ∈ reached) : r.home ∈ reached := by
  unfold visited at hvisited
  rw [hown] at hvisited
  cases reached with
  | nil => exact absurd hs List.not_mem_nil
  | cons t reached =>
      rw [(List.cons.inj hvisited).1]
      exact List.mem_cons_self

/-- **Replacing a name**, whatever comes of it.  A visited space awaits the object if it reads what
the module holds, or, where the module holds nothing, anything at all. -/
theorem install_handed (w : World) (r : Registry) (name : String) (value : Object) :
    ∃ reached rest, w.visited r name value = reached ++ rest ∧
      Handed w (w.install r name value).1 name value (w.own r.home name) reached rest
        (w.install r name value).2 := by
  cases hown : w.own r.home name with
  | none =>
      rw [install_of_not_own hown, visited, hown]
      exact sync_handed name value none r.aliases w
  | some previous =>
      have hhome : w.Awaits name (some previous) r.home := awaits_some_iff.mpr (read_of_own hown)
      rw [visited, hown]
      cases hassign : w.assign true r.home name value with
      | error refusal =>
          rw [install_of_refused hown hassign]
          exact ⟨[], _, rfl, .refused hhome (refusal_of_assign hassign) _⟩
      | ok w₁ =>
          -- The module is the first of the visited spaces, and it awaits what it holds.
          obtain rfl : w₁ = (w.put r.home name value).note (.write r.home name value true) :=
            Except.ok.inj (hassign.symm.trans (assign_of_accepts (accepts_of_assign hassign) ..))
          cases hpackages : World.packagesFor
              ((w.put r.home name value).note (.write r.home name value true)) r previous with
          | error o =>
              rw [install_of_not_found hown hassign hpackages]
              exact ⟨[r.home], _, rfl, (Handed.cons hassign hhome (.nil ..)).misnamed _ o⟩
          | ok packages =>
              rw [install_of_found hown hassign hpackages]
              obtain rfl := eq_of_packagesFor_ok hpackages
              obtain ⟨reached, rest, hlist, hhanded⟩ := sync_handed name value (some previous)
                (r.aliases ++
                  if previous.isScalar then [] else (w.put r.home name value).ancestors r)
                ((w.put r.home name value).note (.write r.home name value true))
              exact ⟨r.home :: reached, rest, congrArg (r.home :: ·) hlist,
                hhanded.cons hassign hhome⟩

/-- Whatever comes of it, replacing a name stays within the name and changes no registry. -/
theorem install_within (w : World) (r : Registry) (name : String) (value : Object) :
    Within (· = name) w (w.install r name value).1 ∧
      (w.install r name value).1.registry = w.registry := by
  obtain ⟨reached, rest, -, hhanded⟩ := install_handed w r name value
  exact ⟨hhanded.toWithin, hhanded.registry⟩

/-- **Where the packages cannot be looked for**: the module holds an object under the name that is
no scalar, it is written, and then it is not named.  Nothing else is written. -/
theorem install_misnamed_iff {w' : World} {o : Object} :
    w.install r name value = (w', some (.misnamed o)) ↔
      ∃ previous, w.own r.home name = some previous ∧ previous.isScalar = false ∧
        w.assign true r.home name value = .ok w' ∧ w'.misnomer? r = some o := by
  -- Working through a list ends at a space that refuses, if at all.
  have hsync : ∀ result : World × Option Refusal,
      result.map id (Option.map Obstacle.refused) ≠ (w', some (.misnamed o)) := by
    rintro ⟨w₁, _ | refusal⟩ h <;> cases (Prod.mk.inj h).2
  cases hown : w.own r.home name with
  | none =>
      rw [install_of_not_own hown]
      refine ⟨fun h => absurd h (hsync _), ?_⟩
      rintro ⟨previous, h, -⟩
      cases h
  | some previous =>
      cases hassign : w.assign true r.home name value with
      | error refusal =>
          rw [install_of_refused hown hassign]
          constructor
          · intro h
            cases (Prod.mk.inj h).2
          · rintro ⟨previous', -, -, h, -⟩
            cases h
      | ok w₁ =>
          cases hpackages : w₁.packagesFor r previous with
          | error o' =>
              rw [install_of_not_found hown hassign hpackages]
              obtain ⟨hscalar, hmisnomer⟩ := packagesFor_eq_error_iff.mp hpackages
              constructor
              · intro h
                obtain ⟨rfl, hobstacle⟩ := Prod.mk.inj h
                obtain rfl : o' = o := by injection Option.some.inj hobstacle
                exact ⟨previous, rfl, hscalar, rfl, hmisnomer⟩
              · rintro ⟨-, -, -, h, hmisnomer'⟩
                obtain rfl := Except.ok.inj h
                rw [Option.some.inj (hmisnomer.symm.trans hmisnomer')]
          | ok packages =>
              rw [install_of_found hown hassign hpackages]
              refine ⟨fun h => absurd h (hsync _), ?_⟩
              rintro ⟨previous', hown', hscalar, h, hmisnomer⟩
              obtain rfl := Except.ok.inj h
              obtain rfl := Option.some.inj hown'
              rw [packagesFor_eq_error_iff.mpr ⟨hscalar, hmisnomer⟩] at hpackages
              cases hpackages

/-- That an obstacle is there in a world: a space that refuses so, or a module that is not named. -/
def Blocks (w : World) (r : Registry) : Obstacle → Prop
  | .refused refusal => ∃ s, (w.space s).refusal = some refusal
  | .misnamed o => w.misnomer? r = some o

/-- What ends a replacement is still there afterwards. -/
theorem blocks_of_install {w' : World} {obstacle : Obstacle}
    (hinstall : w.install r name value = (w', some obstacle)) : w'.Blocks r obstacle := by
  cases obstacle with
  | misnamed o =>
      obtain ⟨-, -, -, -, hmisnomer⟩ := install_misnamed_iff.mp hinstall
      exact hmisnomer
  | refused refusal =>
      obtain ⟨reached, rest, -, hhanded⟩ := install_handed w r name value
      rw [hinstall] at hhanded
      obtain ⟨s, -, -, -, hrefusal⟩ := hhanded.ended
      exact ⟨s, (hhanded.refusal s).trans hrefusal⟩

/-- That the packages around a module are not looked for when an object is put under one of its
names, or can be: the module does not hold the name, it holds a scalar, or it is named when it is
written. -/
def Searchable (w : World) (r : Registry) (name : String) (value : Object) : Prop :=
  ∀ previous, w.own r.home name = some previous → previous.isScalar = false →
    (w.put r.home name value).Named r

/-- So it is in a module that is named, unless its own name is replaced. -/
theorem Named.searchable (h : w.Named r) (hname : name ≠ nameKey) : w.Searchable r name value :=
  fun _ _ _ => (misnomer_put hname).trans h

theorem searchable_of_not_own (hown : w.own r.home name = none) : w.Searchable r name value := by
  intro previous hprevious
  rw [hown] at hprevious
  cases hprevious

theorem Searchable.not_misnamed (h : w.Searchable r name value) (o : Object) :
    (w.install r name value).2 ≠ some (.misnamed o) := by
  intro hobstacle
  obtain ⟨previous, hown, hscalar, hassign, hmisnomer⟩ :=
    install_misnamed_iff.mp (Prod.ext rfl hobstacle)
  obtain hput := Except.ok.inj
    (hassign.symm.trans (assign_of_accepts (accepts_of_assign hassign) ..))
  rw [hput] at hmisnomer
  exact Option.some_ne_none o (hmisnomer.symm.trans (h previous hown hscalar))

/-- The spaces that get the object when a name is replaced and nothing is in the way: those that are
visited and await it. -/
def Receives (w : World) (r : Registry) (name : String) (value : Object) (s : SpaceId) : Prop :=
  s ∈ w.visited r name value ∧ w.Awaits name (w.own r.home name) s

theorem receives_of_own {previous : Object} (hown : w.own r.home name = some previous)
    {s : SpaceId} : w.Receives r name value s ↔
      s ∈ w.visited r name value ∧ w.read s name = some (.held previous) := by
  rw [Receives, hown, awaits_some_iff]

theorem receives_of_not_own (hown : w.own r.home name = none) {s : SpaceId} :
    w.Receives r name value s ↔ s ∈ r.aliases ∧ (w.read s name).isSome := by
  rw [Receives, visited_of_not_own hown, hown, awaits_none_iff]

/-- The module gets the object whenever it holds the name. -/
theorem receives_home {previous : Object} (hown : w.own r.home name = some previous) :
    w.Receives r name value r.home :=
  (receives_of_own hown).mpr ⟨(mem_visited_of_own hown).mpr (.inl rfl), read_of_own hown⟩

/-- Replacing a name, where the spaces that await the object accept it. -/
theorem install_received (hsearch : w.Searchable r name value)
    (haccept : ∀ s, w.Receives r name value s → w.Accepts s) :
    ∃ w', w.install r name value = (w', none) ∧
      Wrote w w' name value (w.Receives r name value) := by
  obtain ⟨reached, rest, hvisited, hhanded⟩ := install_handed w r name value
  obtain ⟨hnone, rfl⟩ := hhanded.all hsearch.not_misnamed fun s hs hawaits =>
    haccept s ⟨hvisited ▸ List.mem_append_right reached hs, hawaits⟩
  refine ⟨_, Prod.ext rfl hnone, hhanded.toWrote.congr fun s => ?_⟩
  rw [Receives, hvisited, List.append_nil]

/-- Where nothing was in the way, they accepted and got it. -/
theorem received_of_install (hinstall : w.install r name value = (w', none)) :
    Wrote w w' name value (w.Receives r name value) ∧
      ∀ s, w.Receives r name value s → w.Accepts s := by
  obtain ⟨reached, rest, hvisited, hhanded⟩ := install_handed w r name value
  rw [hinstall] at hhanded
  -- Without an obstacle the whole list was worked through.
  obtain rfl : rest = [] := hhanded.ended
  rw [List.append_nil] at hvisited
  refine ⟨hhanded.toWrote.congr fun s => ?_, fun s hs => hhanded.accepted s (hvisited ▸ hs.1) hs.2⟩
  rw [Receives, hvisited]

/-- The spaces that follow get the object.  The name of the module itself is left out, since the
packages around the module are looked up after the module was written. -/
theorem receives_iff_follows (hname : name ≠ nameKey) (s : SpaceId) :
    w.Receives r name value s ↔ w.Follows r name s := by
  cases hown : w.own r.home name with
  | none => rw [receives_of_not_own hown, follows_of_not_own hown]
  | some previous =>
      rw [receives_of_own hown, mem_visited_of_own hown, follows_of_own hown, ancestors_put hname]
      constructor
      · rintro ⟨hs | hmem, hread⟩
        · exact .inl hs
        · exact .inr ⟨hmem, hread⟩
      · rintro (rfl | ⟨hmem, hread⟩)
        · exact ⟨.inl rfl, read_of_own hown⟩
        · exact ⟨.inr hmem, hread⟩

/-- **Replacing a name**, where the spaces that follow accept: they get the object, and nothing
else changes. -/
theorem install_accepted {w : World} {r : Registry} {name : String} (value : Object)
    (hname : name ≠ nameKey) (hnamed : w.Named r) (h : ∀ s, w.Follows r name s → w.Accepts s) :
    ∃ w', w.install r name value = (w', none) ∧ Wrote w w' name value (w.Follows r name) := by
  have hreceives : ∀ s, w.Receives r name value s ↔ w.Follows r name s :=
    receives_iff_follows hname
  obtain ⟨w', hinstall, hwrote⟩ := install_received (hnamed.searchable hname) fun s hs =>
    h s ((hreceives s).mp hs)
  exact ⟨w', hinstall, hwrote.congr hreceives⟩

end Install

end Standin.World
