/-
All names at once, or one by one.

A registry undoes all replacements at once, in the order in which they were made, and it
restores all names at once.  Both can be had from the operations on single names too: by
unmocking each name that is mocked, and by restoring each name until nothing is saved for it.

Unmocked one by one, in any order, the names come to the same (`unmockEach_perm`).  A replacement
stays within its name, so that each name is replaced as if it were the only one (`Unmocked`), and
that leaves no room for an order.

Restoring takes two roads.  At once, a name goes to its oldest saved object directly; one by one it
goes through all the others first.  A space that reads one of those by chance is then taken along,
so that the two may differ in a space that is not in step with the module.  In the module itself,
and in the aliases that are in step, they come to the same: `RolledBack` says what that is, and
holds at the end of either road (`restoreOutEach_restoreAll`).

All this is about a module that is named.  In another one the first object that is no scalar is in
the way, of the one road as of the other.
-/
import Standin.Proofs.InStep

set_option autoImplicit false

namespace Standin

/-- A table that holds nothing under any name is empty. -/
theorem Table.eq_nil_of_get? {α : Type} {t : Table α} (h : ∀ name, t.get? name = none) :
    t = [] := by
  cases t with
  | nil => rfl
  | cons entry t =>
      have hentry := h entry.1
      rw [Table.get?_cons, if_pos rfl] at hentry
      cases hentry

namespace World

/-! ## Unmocking one by one -/

/-- Unmocks one name after another.  Ends at the first failure. -/
def unmockEach (id : RegistryId) : List String → World → Result Unit
  | [], w => (w, .ok ())
  | name :: rest, w =>
    match w.unmock id name with
    | (w', .ok _) => unmockEach id rest w'
    | (w', .error e) => (w', .error e)

/-- `w'` is `w` with the names of a list unmocked: each is replaced, by what is recorded for it, as
if it were the only one, and nothing is recorded for these names any more. -/
structure Unmocked (id : RegistryId) (names : List String) (w w' : World) : Prop
    extends Within (· ∈ names) w w' where
  record : ∃ t : Table Object,
    w'.registry = (w.setRegistry id { w.registry id with replaced := t }).registry ∧
      ∀ name, t.get? name = if name ∈ names then none else (w.registry id).replaced.get? name
  replaced : ∀ name s, w'.own s name = w.ownAfter (w.registry id) name
    (if name ∈ names then (w.registry id).replaced.get? name else none) s

namespace Unmocked

variable {w w₁ w' : World} {id : RegistryId} {names rest : List String} {k : String}

theorem refl (id : RegistryId) (w : World) : Unmocked id [] w w where
  toWithin := .refl _ w
  record := by
    refine ⟨(w.registry id).replaced, ?_, fun name => (if_neg List.not_mem_nil).symm⟩
    exact congrArg World.registry (setRegistry_registry w id).symm
  replaced name s := by
    rw [if_neg List.not_mem_nil]
    rfl

/-- The registry keeps its module and its aliases. -/
theorem constant (h : Unmocked id names w w') :
    (w'.registry id).home = (w.registry id).home ∧
      (w'.registry id).aliases = (w.registry id).aliases := by
  obtain ⟨t, hregistry, -⟩ := h.record
  rw [hregistry, registry_setRegistry, if_pos rfl]
  exact ⟨rfl, rfl⟩

theorem get?_replaced (h : Unmocked id names w w') (name : String) :
    (w'.registry id).replaced.get? name =
      if name ∈ names then none else (w.registry id).replaced.get? name := by
  obtain ⟨t, hregistry, ht⟩ := h.record
  rw [hregistry, registry_setRegistry, if_pos rfl]
  exact ht name

theorem targets_eq (h : Unmocked id names w w') (hkey : nameKey ∉ names) :
    w'.targets (w'.registry id) = w.targets (w.registry id) :=
  h.toWithin.targets_eq hkey h.constant.1 h.constant.2

/-- **One more name**, which does not come again. -/
theorem cons (h : Unmocked id [k] w w₁) (h' : Unmocked id rest w₁ w') (hk : k ∉ rest)
    (hkey : k ≠ nameKey) : Unmocked id (k :: rest) w w' where
  toWithin := by
    have hfirst : Within (· ∈ k :: rest) w w₁ :=
      h.toWithin.mono fun _ hmem => List.mem_cons.mpr (.inl (List.mem_singleton.mp hmem))
    exact hfirst.trans (h'.toWithin.mono fun _ => List.mem_cons_of_mem k)
  record := by
    obtain ⟨t, hregistry, ht⟩ := h'.record
    obtain ⟨t₁, hregistry₁, -⟩ := h.record
    have hr₁ : w₁.registry id = { w.registry id with replaced := t₁ } := by
      rw [hregistry₁, registry_setRegistry, if_pos rfl]
    refine ⟨t, funext fun i => ?_, fun name => ?_⟩
    · rw [hregistry, registry_setRegistry, registry_setRegistry, hr₁]
      split
      · rfl
      · rename_i hi
        rw [hregistry₁, registry_setRegistry, if_neg hi]
    · rw [ht, h.get?_replaced]
      by_cases hname : name = k <;> simp [hname]
  replaced name s := by
    rw [h'.replaced name s]
    by_cases hname : name = k
    · subst hname
      rw [if_neg hk, if_pos List.mem_cons_self]
      exact (h.replaced name s).trans (by rw [if_pos List.mem_cons_self])
    · -- The first name is another one, and this one is replaced as it would have been before.
      have hother : name ∉ [k] := fun hc => hname (List.mem_singleton.mp hc)
      have hmem : name ∈ k :: rest ↔ name ∈ rest := by simp [hname]
      rw [h.get?_replaced, if_neg hother, h.toWithin.ownAfter_eq hother
        (fun hc => hkey (List.mem_singleton.mp hc).symm) h.constant.1 h.constant.2]
      simp only [hmem]

/-- What is read in the end depends on which names were unmocked, and on nothing else. -/
theorem read_eq {names' : List String} {w'' : World} (h : Unmocked id names w w')
    (h' : Unmocked id names' w w'') (hnames : ∀ name, name ∈ names ↔ name ∈ names') (s : SpaceId)
    (name : String) : w'.read s name = w''.read s name := by
  refine read_congr ?_ ((h.inherited s).trans (h'.inherited s).symm)
  rw [h.replaced, h'.replaced]
  simp only [hnames]

/-- When all names on record were unmocked, the record is empty. -/
theorem registry_eq (h : Unmocked id names w w')
    (hall : ∀ name ∈ (w.registry id).replaced.names, name ∈ names) :
    w'.registry = (w.setRegistry id { w.registry id with replaced := [] }).registry := by
  obtain ⟨t, hregistry, ht⟩ := h.record
  obtain rfl : t = [] := by
    refine Table.eq_nil_of_get? fun name => ?_
    rw [ht]
    split
    · rfl
    · rename_i hname
      rw [← Option.not_isSome_iff_eq_none, ← Table.mem_names_iff]
      exact fun hc => hname (hall name hc)
  exact hregistry

end Unmocked

section

variable {w : World} {id : RegistryId}

/-- Unmocking a single name. -/
theorem unmock_unmocked {name : String} (hname : name ≠ nameKey)
    (hnamed : w.Named (w.registry id))
    (hmocked : ((w.registry id).replaced.get? name).isSome)
    (haccept : ∀ s ∈ w.targets (w.registry id), w.Accepts s) :
    ∃ w' p, w.unmock id name = (w', .ok p) ∧ Unmocked id [name] w w' := by
  obtain ⟨p, hp⟩ := Option.isSome_iff_exists.mp hmocked
  obtain ⟨w₀, hunmock, hwrote⟩ := unmock_accepted hname hnamed hp fun s hs =>
    haccept s (mem_targets_of_follows hs)
  have hwithin : Within (· = name) w (w₀.setRegistry id ((w.registry id).dropReplaced name)) :=
    hwrote.toWithin.trans (.of_space_eq _ rfl rfl)
  refine ⟨_, p, hunmock, hwithin.mono fun _ h => List.mem_singleton.mpr h, ?_, fun other s => ?_⟩
  · refine ⟨(w.registry id).replaced.drop name, funext fun i => ?_, fun other => ?_⟩
    · rw [registry_setRegistry, registry_setRegistry, hwrote.registry]
      rfl
    · simp [Table.get?_drop]
  · by_cases hother : other = name
    · subst hother
      rw [if_pos List.mem_cons_self, hp]
      exact hwrote.own_eq s
    · rw [if_neg fun hc => hother (List.mem_singleton.mp hc)]
      exact hwrote.own s other hother

/-- Unmocking all at once. -/
theorem unmockAll_unmocked (hnodup : (w.registry id).replaced.names.Nodup)
    (hkey : nameKey ∉ (w.registry id).replaced.names) (hnamed : w.Named (w.registry id))
    (haccept : ∀ s ∈ w.targets (w.registry id), w.Accepts s) :
    (w.unmockAll id).2 = .ok () ∧
      Unmocked id (w.registry id).replaced.names w (w.unmockAll id).1 := by
  obtain ⟨hok, hown⟩ := unmockAll_each hnodup hkey hnamed haccept
  have hfree : ∀ name, name ∉ (w.registry id).replaced.names →
      (w.registry id).replaced.get? name = none := by
    intro name hname
    rw [← Option.not_isSome_iff_eq_none, ← Table.mem_names_iff]
    exact hname
  refine ⟨hok, (unmockAll_effect w id).toWithin, ⟨[], registry_unmockAll hok, fun name => ?_⟩,
    fun name s => ?_⟩
  · split
    · rfl
    · rename_i hname
      rw [hfree name hname]
      rfl
  · rw [hown]
    split
    · rfl
    · rename_i hname
      rw [hfree name hname]

/-- Unmocking the names of a list one after another.  The induction is on the list. -/
theorem unmockEach_unmocked (names : List String) {w : World} (hnodup : names.Nodup)
    (hmocked : ∀ name ∈ names, ((w.registry id).replaced.get? name).isSome)
    (hkey : nameKey ∉ names) (hnamed : w.Named (w.registry id))
    (haccept : ∀ s ∈ w.targets (w.registry id), w.Accepts s) :
    (unmockEach id names w).2 = .ok () ∧ Unmocked id names w (unmockEach id names w).1 := by
  induction names generalizing w with
  | nil => exact ⟨rfl, .refl id w⟩
  | cons k rest ih =>
      obtain ⟨hk, hrest⟩ := List.nodup_cons.mp hnodup
      have hne : k ≠ nameKey := fun h => hkey (h ▸ List.mem_cons_self)
      obtain ⟨w₁, p, hunmock, hfirst⟩ :=
        unmock_unmocked hne hnamed (hmocked k List.mem_cons_self) haccept
      have hkey₁ : nameKey ∉ [k] := fun hc => hne (List.mem_singleton.mp hc).symm
      have hnamed₁ := hfirst.named hkey₁ hfirst.constant.1 hnamed
      have hmocked₁ : ∀ name ∈ rest, ((w₁.registry id).replaced.get? name).isSome := by
        intro name hname
        have hnk : name ∉ [k] := fun hc => hk (List.mem_singleton.mp hc ▸ hname)
        rw [hfirst.get?_replaced, if_neg hnk]
        exact hmocked name (List.mem_cons_of_mem k hname)
      obtain ⟨hok, hlater⟩ := ih hrest hmocked₁ (fun h => hkey (List.mem_cons_of_mem k h))
        hnamed₁ fun s hs => hfirst.accepts (haccept s (hfirst.targets_eq hkey₁ ▸ hs))
      rw [unmockEach, hunmock]
      exact ⟨hok, hfirst.cons hlater hk hne⟩

end

/-- **Unmocking one by one, in any order.**  The module is named, its own name is not mocked, and
all spaces that the registry may write accept; a registry records a name once.  Unmocking the mocked
names one after another, in any order, succeeds as undoing all replacements does.  Every space reads
under every name the same, which is what it would if this name alone had been replaced by what is
recorded for it.  All records are the same: nothing is mocked any more, what is saved is saved as
before, and no other registry has changed. -/
theorem unmockEach_perm (w : World) (id : RegistryId) (names : List String)
    (hnodup : (w.registry id).replaced.names.Nodup)
    (hkey : (w.registry id).isMocked nameKey = false) (hnamed : w.Named (w.registry id))
    (haccept : ∀ s ∈ w.targets (w.registry id), w.Accepts s)
    (hperm : names.Perm (w.registry id).replaced.names) :
    let each := unmockEach id names w
    let all := w.unmockAll id
    each.2 = .ok () ∧ all.2 = .ok () ∧ (∀ s name, each.1.read s name = all.1.read s name) ∧
      (∀ s name, all.1.own s name =
        w.ownAfter (w.registry id) name ((w.registry id).replaced.get? name) s) ∧
      each.1.registry = all.1.registry ∧
      all.1.registry id = { w.registry id with replaced := [] } ∧
      ∀ j, j ≠ id → all.1.registry j = w.registry j := by
  intro each all
  have hkey' : nameKey ∉ (w.registry id).replaced.names := by
    rw [Table.mem_names_iff, ← isMocked_eq, hkey]
    exact Bool.false_ne_true
  obtain ⟨hall, hunmocked⟩ := unmockAll_unmocked hnodup hkey' hnamed haccept
  obtain ⟨heach, hunmocked'⟩ := unmockEach_unmocked names (hperm.nodup_iff.mpr hnodup)
    (fun name hname => (Table.mem_names_iff _ _).mp (hperm.mem_iff.mp hname))
    (fun h => hkey' (hperm.mem_iff.mp h)) hnamed haccept
  have hregistry := hunmocked.registry_eq fun name hname => hname
  have hown := (unmockAll_each hnodup hkey' hnamed haccept).2
  refine ⟨heach, hall, hunmocked'.read_eq hunmocked fun name => hperm.mem_iff,
    fun s name => hown name s, ?_, ?_, fun j hj => ?_⟩
  · rw [hregistry]
    exact hunmocked'.registry_eq fun name hname => hperm.mem_iff.mpr hname
  · rw [hregistry, registry_setRegistry, if_pos rfl]
  · rw [hregistry, registry_setRegistry, if_neg hj]

/-- The helper was mocked last and is unmocked first. -/
theorem unmockEach_perm_birdhouse :
    let w := performAll 0 [.mock "fetch" (some (.item 9 .resettable)),
      .mock "helper" (some .nothing)] birdhouse
    let each := unmockEach 0 ["helper", "fetch"] w
    each.2 = .ok () ∧ (∀ s name, each.1.read s name = (w.unmockAll 0).1.read s name) ∧
      each.1.registry = (w.unmockAll 0).1.registry ∧ (each.1.registry 0).replaced = [] := by
  intro w each
  obtain ⟨heach, -, hread, -, hregistry, hrecord, -⟩ := unmockEach_perm w 0 ["helper", "fetch"]
    (by decide +kernel) (by decide +kernel) (by decide +kernel) (by decide +kernel)
    (by decide +kernel)
  exact ⟨heach, hread, hregistry, by rw [hregistry, hrecord]⟩

/-- In a module that is not named, no road leads to an empty record. -/
theorem not_unmocked_of_misnamed :
    ¬ ∀ (w : World) (id : RegistryId) (names : List String),
      (w.registry id).replaced.names.Nodup → (w.registry id).isMocked nameKey = false →
      (∀ s ∈ w.targets (w.registry id), w.Accepts s) →
      names.Perm (w.registry id).replaced.names →
      ((unmockEach id names w).1.registry id).replaced = [] ∧
        ((w.unmockAll id).1.registry id).replaced = [] := by
  intro h
  let w := actAll [.operate 0 (.mock "fetch" none), .put 0 nameKey (.item 9 .scalar)] birdhouse
  obtain ⟨heach, -⟩ := h w 0 ["fetch"] (by decide +kernel) (by decide +kernel) (by decide +kernel)
    (by decide +kernel)
  exact absurd heach (by decide +kernel)

/-! ## Restoring one by one -/

/-- A restoring takes off the newest saved object, whatever comes of it. -/
theorem savedOf_restore {w : World} {id : RegistryId} {name : String} {o : Object}
    {older : List Object} (hsaved : (w.registry id).savedOf name = o :: older) :
    ((w.restore id name).1.registry id).savedOf name = older := by
  obtain ⟨w', obstacle?, hinstall, hrestore⟩ := restore_of_saved hsaved
  rw [hrestore, registry_of_install hinstall, registry_setRegistry, if_pos rfl,
    Registry.savedOf_putSaved, if_pos rfl]

/-- Restores a name until nothing is saved for it any more.  Ends at the first failure. -/
def restoreOut (id : RegistryId) (name : String) (w : World) : Result Unit :=
  if _hnone : (w.registry id).savedOf name = [] then (w, .ok ())
  else
    match _hrestore : w.restore id name with
    | (w', .ok _) => restoreOut id name w'
    | (w', .error e) => (w', .error e)
termination_by ((w.registry id).savedOf name).length
decreasing_by
  obtain ⟨o, older, hsaved⟩ := List.exists_cons_of_ne_nil _hnone
  have holder := savedOf_restore hsaved
  rw [_hrestore] at holder
  rw [holder, hsaved]
  exact Nat.lt_succ_self _

/-- Restores each name of a list until nothing is saved for it.  Ends at the first failure. -/
def restoreOutEach (id : RegistryId) : List String → World → Result Unit
  | [], w => (w, .ok ())
  | name :: rest, w =>
    match restoreOut id name w with
    | (w', .ok ()) => restoreOutEach id rest w'
    | (w', .error e) => (w', .error e)

theorem restoreOut_of_unsaved {w : World} {id : RegistryId} {name : String}
    (h : (w.registry id).savedOf name = []) : restoreOut id name w = (w, .ok ()) := by
  rw [restoreOut, dif_pos h]

theorem restoreOut_of_restore {w w₁ : World} {id : RegistryId} {name : String} {o : Object}
    (hsaved : (w.registry id).savedOf name ≠ []) (hrestore : w.restore id name = (w₁, .ok o)) :
    restoreOut id name w = restoreOut id name w₁ := by
  rw [restoreOut, dif_neg hsaved]
  split <;> rename_i heq <;> rw [hrestore] at heq <;> cases heq
  rfl

/-- What has become of a name when all that was saved for it was put back: nothing is saved for it,
the module holds the oldest object that was, if there was one, and the aliases that were in step
with the module are in step.  A name for which nothing was saved is left alone. -/
structure RolledBack (id : RegistryId) (name : String) (w w' : World) : Prop where
  saved : (w'.registry id).savedOf name = []
  own : w'.own (w.registry id).home name =
    ((w.registry id).savedOf name).getLast?.or (w.own (w.registry id).home name)
  inStep : ∀ s ∈ (w.registry id).aliases, InStep w (w.registry id) name s →
    InStep w' (w'.registry id) name s
  untouched : (w.registry id).savedOf name = [] → ∀ s, w'.own s name = w.own s name

/-- `w'` is `w` except for what spaces hold, and what a registry has saved, under the names of a
list. -/
abbrev Restored (id : RegistryId) (names : List String) (w w' : World) : Prop :=
  Effect id (· ∈ names) (Registry.Resaved names) w w'

namespace Restored

variable {id : RegistryId} {names : List String} {w w' : World}

theorem constant (h : Restored id names w w') :
    (w'.registry id).home = (w.registry id).home ∧
      (w'.registry id).aliases = (w.registry id).aliases := by
  obtain ⟨saved, hrecord⟩ := h.record.1
  rw [hrecord]
  exact ⟨rfl, rfl⟩

theorem targets_eq (h : Restored id names w w') (hkey : nameKey ∉ names) :
    w'.targets (w'.registry id) = w.targets (w.registry id) :=
  h.toWithin.targets_eq hkey h.constant.1 h.constant.2

theorem widen {names' : List String} (h : Restored id names w w')
    (hnames : ∀ name ∈ names, name ∈ names') : Restored id names' w w' :=
  Effect.mono hnames (fun _ _ hsaved => hsaved.mono hnames) h

end Restored

namespace RolledBack

variable {id : RegistryId} {name : String} {names : List String} {w w₁ w' : World}

/-- A name for which nothing is saved is rolled back. -/
theorem of_unsaved (h : (w.registry id).savedOf name = []) : RolledBack id name w w := by
  refine ⟨h, ?_, fun s _ hs => hs, fun _ s => rfl⟩
  rw [h]
  rfl

/-- A name is rolled back when it is after one more saved object was put back. -/
theorem of_restored {o : Object} {older : List Object} (hrestored : Restored id [name] w w₁)
    (hsaved : (w.registry id).savedOf name = o :: older)
    (hsaved₁ : (w₁.registry id).savedOf name = older)
    (hown₁ : w₁.own (w₁.registry id).home name = some o)
    (hstep : ∀ s ∈ (w.registry id).aliases, InStep w (w.registry id) name s →
      InStep w₁ (w₁.registry id) name s) (h : RolledBack id name w₁ w') :
    RolledBack id name w w' := by
  obtain ⟨hhome, haliases⟩ := hrestored.constant
  refine ⟨h.saved, ?_, fun s hs hin => h.inStep s (haliases ▸ hs) (hstep s hs hin), fun hnone => ?_⟩
  · rw [← hhome, h.own, hsaved₁, hown₁, hsaved, List.getLast?_cons]
    cases older.getLast? <;> rfl
  · rw [hsaved] at hnone
    cases hnone

/-- Other names may be restored before. -/
theorem after (hrestored : Restored id names w w₁) (hname : name ∉ names)
    (h : RolledBack id name w₁ w') : RolledBack id name w w' := by
  obtain ⟨hhome, haliases⟩ := hrestored.constant
  refine ⟨h.saved, ?_, fun s hs hin => h.inStep s (haliases ▸ hs) ?_, fun hnone s => ?_⟩
  · rw [← hrestored.record.2 name hname, ← hrestored.own _ _ hname, ← hhome]
    exact h.own
  · exact hin.of_within hrestored.toWithin hname hhome
  · rw [h.untouched ((hrestored.record.2 name hname).trans hnone), hrestored.own _ _ hname]

/-- They may be restored after it too. -/
theorem before (h : RolledBack id name w w₁) (hrestored : Restored id names w₁ w')
    (hname : name ∉ names) : RolledBack id name w w' :=
  ⟨(hrestored.record.2 name hname).trans h.saved, (hrestored.own _ _ hname).trans h.own,
    fun s hs hin => (h.inStep s hs hin).of_within hrestored.toWithin hname
      hrestored.constant.1,
    fun hnone s => (hrestored.own _ _ hname).trans (h.untouched hnone s)⟩

/-- So may the name itself, for which nothing is left to restore. -/
theorem trans (hrestored : Restored id names w w₁) (h : RolledBack id name w w₁)
    (h' : RolledBack id name w₁ w') : RolledBack id name w w' := by
  obtain ⟨hhome, haliases⟩ := hrestored.constant
  refine ⟨h'.saved, ?_, fun s hs hin => h'.inStep s (haliases ▸ hs) (h.inStep s hs hin),
    fun hnone s => (h'.untouched h.saved s).trans (h.untouched hnone s)⟩
  rw [← h.own, ← hhome, h'.own, h.saved]
  rfl

/-- Two worlds in which a name is rolled back read the same in the module, and in the aliases that
read what the module read. -/
theorem agree {w'' : World} (h : RolledBack id name w w') (h' : RolledBack id name w w'')
    (hrestored : Restored id names w w') (hrestored' : Restored id names w w'')
    (hheld : (w.registry id).savedOf name ≠ [] → (w.own (w.registry id).home name).isSome) :
    w'.read (w.registry id).home name = w''.read (w.registry id).home name ∧
      ∀ s ∈ (w.registry id).aliases, w.read s name = w.read (w.registry id).home name →
        w'.read s name = w''.read s name := by
  have hhome : w'.own (w.registry id).home name = w''.own (w.registry id).home name :=
    h.own.trans h'.own.symm
  have hinherited : ∀ s, (w'.space s).inherited = (w''.space s).inherited := fun s =>
    (hrestored.inherited s).trans (hrestored'.inherited s).symm
  refine ⟨read_congr hhome (hinherited _), fun s hs hread => ?_⟩
  by_cases hsaved : (w.registry id).savedOf name = []
  · exact read_congr ((h.untouched hsaved s).trans (h'.untouched hsaved s).symm) (hinherited s)
  · -- Whatever the alias read on the way, it is in step in the end with what the module holds.
    obtain ⟨p, hp⟩ := Option.isSome_iff_exists.mp (hheld hsaved)
    have hin : InStep w (w.registry id) name s := ⟨p, hp, hread.trans (read_of_own hp)⟩
    obtain ⟨q, hq, hqread⟩ := h.inStep s hs hin
    obtain ⟨q', hq', hqread'⟩ := h'.inStep s hs hin
    rw [hrestored.constant.1, hhome] at hq
    rw [hrestored'.constant.1] at hq'
    obtain rfl : q = q' := Option.some.inj (hq.symm.trans hq')
    exact hqread.trans hqread'.symm

end RolledBack

section

variable {id : RegistryId} {name : String}

theorem restore_restored (w : World) : Restored id [name] w (w.restore id name).1 := by
  refine (restore_effect w id name).mono (fun _ h => List.mem_singleton.mpr h) fun r r' h => ?_
  cases h with
  | same => exact .refl _ r
  | restore _ _ older => exact .putSaved r name older

/-- One restoring puts the newest saved object in the module, and in the aliases that are in step
with it. -/
theorem restore_inStep {w : World} {o : Object} {older : List Object} (hname : name ≠ nameKey)
    (hnamed : w.Named (w.registry id)) (hstack : (w.registry id).savedOf name = o :: older)
    (hheld : (w.own (w.registry id).home name).isSome)
    (haccept : ∀ s ∈ w.targets (w.registry id), w.Accepts s) :
    ∃ w₁, w.restore id name = (w₁, .ok o) ∧ Restored id [name] w w₁ ∧
      (w₁.registry id).savedOf name = older ∧ w₁.own (w₁.registry id).home name = some o ∧
      ∀ s ∈ (w.registry id).aliases, InStep w (w.registry id) name s →
        InStep w₁ (w₁.registry id) name s := by
  obtain ⟨p, hp⟩ := Option.isSome_iff_exists.mp hheld
  obtain ⟨w₁, hrestore, hwrote⟩ := restore_accepted hname hnamed hstack fun s hs =>
    haccept s (mem_targets_of_follows hs)
  have hrestored : Restored id [name] w (w.restore id name).1 := restore_restored w
  rw [hrestore] at hrestored
  have hown : w₁.own (w₁.registry id).home name = some o := by
    rw [hwrote.recorded]
    exact hwrote.gets _ ((follows_of_own hp _).mpr (.inl rfl))
  refine ⟨w₁, hrestore, hrestored, ?_, hown, fun s hs hin => ?_⟩
  · rw [hwrote.recorded, Registry.savedOf_putSaved, if_pos rfl]
  · exact ⟨o, hown, hwrote.read_of (hin.follows (.inl hs))⟩

/-- **Restoring a name until nothing is saved for it.**  The induction is on what is saved. -/
theorem restoreOut_rolledBack {w : World} (hname : name ≠ nameKey)
    (hnamed : w.Named (w.registry id))
    (hheld : (w.registry id).savedOf name ≠ [] → (w.own (w.registry id).home name).isSome)
    (haccept : ∀ s ∈ w.targets (w.registry id), w.Accepts s) :
    (restoreOut id name w).2 = .ok () ∧ Restored id [name] w (restoreOut id name w).1 ∧
      RolledBack id name w (restoreOut id name w).1 := by
  generalize hstack : (w.registry id).savedOf name = stack at hheld
  induction stack generalizing w with
  | nil =>
      rw [restoreOut_of_unsaved hstack]
      exact ⟨rfl, .of_within (.refl _ w) rfl (.refl _ _), .of_unsaved hstack⟩
  | cons o older ih =>
      obtain ⟨w₁, hrestore, hrestored, hsaved₁, hown₁, hstep⟩ :=
        restore_inStep hname hnamed hstack (hheld (List.cons_ne_nil o older)) haccept
      have hkey : nameKey ∉ [name] := fun hc => hname (List.mem_singleton.mp hc).symm
      -- The aliases in step go along with each object, and so they follow the next one too.
      obtain ⟨hok, hrestored', hback⟩ := ih (w := w₁)
        (hrestored.named hkey hrestored.constant.1 hnamed)
        (fun s hs => hrestored.accepts (haccept s (hrestored.targets_eq hkey ▸ hs)))
        hsaved₁ fun _ => by rw [hown₁]; rfl
      have hne : (w.registry id).savedOf name ≠ [] := by
        rw [hstack]
        exact List.cons_ne_nil o older
      rw [restoreOut_of_restore hne hrestore]
      exact ⟨hok, hrestored.trans (fun _ _ _ => Registry.Resaved.trans) hrestored',
        hback.of_restored hrestored hstack hsaved₁ hown₁ hstep⟩

/-- **Restoring the names of a list until nothing is saved for them.**  The induction is on the
list, where a name may come again. -/
theorem restoreOutEach_rolledBack (names : List String) {w : World} (hkey : nameKey ∉ names)
    (hnamed : w.Named (w.registry id))
    (hheld : ∀ name ∈ names, (w.registry id).savedOf name ≠ [] →
      (w.own (w.registry id).home name).isSome)
    (haccept : ∀ s ∈ w.targets (w.registry id), w.Accepts s) :
    (restoreOutEach id names w).2 = .ok () ∧ Restored id names w (restoreOutEach id names w).1 ∧
      ∀ name ∈ names, RolledBack id name w (restoreOutEach id names w).1 := by
  induction names generalizing w with
  | nil =>
      exact ⟨rfl, .of_within (.refl _ w) rfl (.refl _ _), fun name h => absurd h List.not_mem_nil⟩
  | cons k rest ih =>
      have hne : k ≠ nameKey := fun h => hkey (h ▸ List.mem_cons_self)
      obtain ⟨hok, hrestored, hback⟩ :=
        restoreOut_rolledBack hne hnamed (hheld k List.mem_cons_self) haccept
      rw [restoreOutEach]
      generalize restoreOut id k w = result at hok hrestored hback ⊢
      obtain ⟨w₁, outcome⟩ := result
      subst hok
      dsimp only at hrestored hback ⊢
      have hkey₁ : nameKey ∉ [k] := fun hc => hne (List.mem_singleton.mp hc).symm
      have hheld₁ : ∀ name ∈ rest, (w₁.registry id).savedOf name ≠ [] →
          (w₁.own (w₁.registry id).home name).isSome := by
        intro name hname hsaved
        -- A restoring takes no name away, and what is still saved was saved before.
        rw [hrestored.constant.1]
        refine hrestored.kept _ _ (hheld name (List.mem_cons_of_mem k hname) fun hnone => hsaved ?_)
        by_cases hnk : name ∈ [k]
        · rw [List.mem_singleton.mp hnk]
          exact hback.saved
        · rw [hrestored.record.2 name hnk, hnone]
      obtain ⟨hok', hrestored', hback'⟩ := ih (fun h => hkey (List.mem_cons_of_mem k h))
        (hrestored.named hkey₁ hrestored.constant.1 hnamed) hheld₁ fun s hs =>
           hrestored.accepts (haccept s (hrestored.targets_eq hkey₁ ▸ hs))
      have hfirst : Restored id (k :: rest) w w₁ := hrestored.widen fun name hname =>
        List.mem_singleton.mp hname ▸ List.mem_cons_self
      have hlater := hrestored'.widen fun name => List.mem_cons_of_mem k
      refine ⟨hok', hfirst.trans (fun _ _ _ => Registry.Resaved.trans) hlater, fun name hname => ?_⟩
      by_cases hnk : name = k
      · subst hnk
        by_cases hagain : name ∈ rest
        · exact hback.trans hrestored (hback' name hagain)
        · exact hback.before hrestored' hagain
      · exact (hback' name ((List.mem_cons.mp hname).resolve_left hnk)).after hrestored
          fun hc => hnk (List.mem_singleton.mp hc)

/-- An alias that is in step with a module stays so when the name is replaced, if it is at all. -/
theorem InStep.of_ownAfter {w w' : World} {r r' : Registry} {value? : Option Object} {s : SpaceId}
    (h : InStep w r name s) (hs : s ∈ r.aliases)
    (hown : ∀ t, w'.own t name = w.ownAfter r name value? t)
    (hinherited : (w'.space s).inherited = (w.space s).inherited) (hhome : r'.home = r.home) :
    InStep w' r' name s := by
  have hfollows := h.follows (.inl hs)
  obtain ⟨p, hp, hread⟩ := h
  unfold InStep
  rw [hhome]
  cases value? with
  | none => exact ⟨p, (hown _).trans hp, (read_congr (hown s) hinherited).trans hread⟩
  | some value =>
      have hgiven : w.Follows r name r.home := (follows_of_own hp _).mpr (.inl rfl)
      exact ⟨value, (hown _).trans (if_pos hgiven), read_of_own ((hown s).trans (if_pos hfollows))⟩

/-- **Restoring all names at once.** -/
theorem restoreAll_rolledBack {w : World} (hkey : nameKey ∉ (w.registry id).mutables)
    (hnamed : w.Named (w.registry id))
    (hheld : ∀ name ∈ (w.registry id).mutables, (w.registry id).savedOf name ≠ [] →
      (w.own (w.registry id).home name).isSome)
    (haccept : ∀ s ∈ w.targets (w.registry id), w.Accepts s) :
    (w.restoreAll id).2 = .ok () ∧
      Restored id (w.registry id).mutables w (w.restoreAll id).1 ∧
      ∀ name ∈ (w.registry id).mutables, RolledBack id name w (w.restoreAll id).1 := by
  have hrestored : Restored id (w.registry id).mutables w (w.restoreAll id).1 :=
    restoreEach_effect id (w.registry id).mutables w
  obtain ⟨hok, -, hnames⟩ := restoreEach_accepted id (w.registry id).mutables w
    (fun h => absurd h hkey) hnamed haccept
  refine ⟨hok, hrestored, fun name hname => ?_⟩
  have hsaved := (hnames name).1
  have hown : ∀ s, (w.restoreAll id).1.own s name =
      w.ownAfter (w.registry id) name ((w.registry id).savedOf name).getLast? s := by
    have h := (hnames name).2
    simp only [if_pos hname] at h
    exact h
  rw [if_pos hname] at hsaved
  refine ⟨hsaved, ?_, fun s hs hin => ?_, fun hnone s => ?_⟩
  · -- The module holds a name for which something is saved, so that it is given the oldest.
    by_cases hnone : (w.registry id).savedOf name = []
    · rw [hown, hnone]
      rfl
    · rw [hown]
      exact ownAfter_home (hheld name hname hnone) _
  · exact hin.of_ownAfter hs hown (hrestored.inherited s) hrestored.constant.1
  · rw [hown, hnone]
    rfl

end

/-- **Restoring one by one.**  The module is named, and its own name may not be assigned again; a
name that may, and for which something is saved, is held by the module; and all spaces that the
registry may write accept.  The names that may be assigned again are restored all at once, or each
until nothing is saved for it, in the order in which they are listed.  Either succeeds, and leaves
nothing saved for these names, and in the module the oldest object saved for each, if there was one.
What is saved for other names, and what is read under them, stays.  Under every name the module
reads the same after either, and so does each alias that read there what the module read. -/
theorem restoreOutEach_restoreAll (w : World) (id : RegistryId)
    (hkey : nameKey ∉ (w.registry id).mutables) (hnamed : w.Named (w.registry id))
    (hheld : ∀ name ∈ (w.registry id).mutables, (w.registry id).savedOf name ≠ [] →
      (w.own (w.registry id).home name).isSome)
    (haccept : ∀ s ∈ w.targets (w.registry id), w.Accepts s) :
    let r := w.registry id
    let all := w.restoreAll id
    let each := restoreOutEach id r.mutables w
    (∀ result, result = all ∨ result = each → result.2 = .ok () ∧
      (∀ name ∈ r.mutables, (result.1.registry id).savedOf name = [] ∧
        result.1.own r.home name = (r.savedOf name).getLast?.or (w.own r.home name)) ∧
      ∀ name, name ∉ r.mutables → (result.1.registry id).savedOf name = r.savedOf name ∧
        ∀ s, result.1.read s name = w.read s name) ∧
    ∀ name, each.1.read r.home name = all.1.read r.home name ∧
      ∀ s ∈ r.aliases, w.read s name = w.read r.home name →
        each.1.read s name = all.1.read s name := by
  intro r all each
  obtain ⟨hall, hrestored, hback⟩ := restoreAll_rolledBack hkey hnamed hheld haccept
  obtain ⟨heach, hrestored', hback'⟩ :=
    restoreOutEach_rolledBack r.mutables hkey hnamed hheld haccept
  have hspec : ∀ result : Result Unit, result.2 = .ok () → Restored id r.mutables w result.1 →
      (∀ name ∈ r.mutables, RolledBack id name w result.1) → result.2 = .ok () ∧
        (∀ name ∈ r.mutables, (result.1.registry id).savedOf name = [] ∧
          result.1.own r.home name = (r.savedOf name).getLast?.or (w.own r.home name)) ∧
        ∀ name, name ∉ r.mutables → (result.1.registry id).savedOf name = r.savedOf name ∧
          ∀ s, result.1.read s name = w.read s name := by
    intro result hok hrest hrolled
    refine ⟨hok, fun name hname => ⟨(hrolled name hname).saved, (hrolled name hname).own⟩,
      fun name hname => ⟨hrest.record.2 name hname, fun s => hrest.read s hname⟩⟩
  refine ⟨?_, fun name => ?_⟩
  · rintro result (rfl | rfl)
    · exact hspec _ hall hrestored hback
    · exact hspec _ heach hrestored' hback'
  · by_cases hname : name ∈ r.mutables
    · exact (hback' name hname).agree (hback name hname) hrestored' hrestored
        fun hsaved => hheld name hname hsaved
    · refine ⟨?_, fun s _ _ => ?_⟩ <;> rw [hrestored'.read _ hname, hrestored.read _ hname]

/-- The function was saved, mocked and saved again, so that it comes back by way of its stand-in.
An alias that was in step goes all the way with it. -/
theorem restoreOutEach_restoreAll_birdhouse :
    let w := performAll 0 [.save "fetch", .mock "fetch" (some (.item 9 .resettable)),
      .save "fetch", .save "helper"] (birdhouse.addAlias 0 2)
    let each := restoreOutEach 0 ["fetch", "helper"] w
    each.2 = .ok () ∧ (each.1.registry 0).savedOf "fetch" = [] ∧
      each.1.own 0 "fetch" = some fetch ∧
      each.1.read 2 "fetch" = (w.restoreAll 0).1.read 2 "fetch" := by
  intro w each
  have hmutables : (w.registry 0).mutables = ["fetch", "helper"] := by decide +kernel
  have hhome : (w.registry 0).home = 0 := by decide +kernel
  have holdest : ((w.registry 0).savedOf "fetch").getLast? = some fetch := by decide +kernel
  obtain ⟨hboth, hreads⟩ := restoreOutEach_restoreAll w 0 (by decide +kernel) (by decide +kernel)
    (by decide +kernel) (by decide +kernel)
  rw [hmutables, hhome] at hboth hreads
  obtain ⟨hok, hnames, -⟩ := hboth each (.inr rfl)
  obtain ⟨hsaved, hown⟩ := hnames "fetch" (by decide)
  rw [holdest] at hown
  exact ⟨hok, hsaved, hown, (hreads "fetch").2 2 (by decide +kernel) (by decide +kernel)⟩

/-- In a module that is not named, what is saved is not used up. -/
theorem not_restored_of_misnamed :
    ¬ ∀ (w : World) (id : RegistryId), nameKey ∉ (w.registry id).mutables →
      (∀ name ∈ (w.registry id).mutables, (w.registry id).savedOf name ≠ [] →
        (w.own (w.registry id).home name).isSome) →
      (∀ s ∈ w.targets (w.registry id), w.Accepts s) →
      ∀ name ∈ (w.registry id).mutables,
        ((w.restoreAll id).1.registry id).savedOf name = [] := by
  intro h
  have hused := h (actAll [.operate 0 (.save "fetch"), .put 0 nameKey (.item 9 .scalar)] birdhouse)
    0 (by decide) (by decide) (by decide +kernel) "fetch" (by decide)
  exact absurd hused (by decide)

end World

end Standin
