/-
What undoing everything brings back after a run of operations.

Of a name of the module three things matter: the object it reads, the object recorded
when it was mocked, and the objects saved for it.  They make up its `Slot`, and each
operation does one of a few things to a slot, whatever the other names go through
(`perform_slot`).  Undoing everything puts the recorded object back first and the oldest
saved one after it, so that the saved one wins (`undo_own`).

Mocking and unmocking never lose the object of the start: it is read, or it is recorded.
Saving and restoring, on the other hand, bring back whatever was read when it was saved.
So the name comes back to the start as long as nothing else was saved for it
(`undo_after_run`), and a stand-in that was saved comes back like any other object.
-/
import Standin.Proofs.RoundTrip

set_option autoImplicit false

namespace Standin

/-! ## Slots -/

/-- What there is of a name that a module holds: its object, the object recorded when it was mocked,
and the objects saved for it, newest first. -/
structure Slot where
  value : Object
  original : Option Object
  saved : List Object

namespace Slot

/-- What an operation can do to a slot. -/
inductive Step : Slot → Slot → Prop where
  /-- It may be about other names, fail, or find nothing to do. -/
  | stay (a : Slot) : Step a a
  | mock (a : Slot) (x : Object) (h : a.original = none) :
    Step a { a with value := x, original := some a.value }
  | unmock (a : Slot) (p : Object) (h : a.original = some p) :
    Step a { a with value := p, original := none }
  /-- The object is saved once, or as often as the name is listed. -/
  | save (a : Slot) (pushed : List Object) (h : ∀ o ∈ pushed, o = a.value) :
    Step a { a with saved := pushed ++ a.saved }
  | restore (a : Slot) (o : Object) (rest : List Object) (h : a.saved = o :: rest) :
    Step a { a with value := o, saved := rest }
  /-- The oldest saved object is put back and no other is kept. -/
  | restoreAll (a : Slot) (o : Object) (h : a.saved.getLast? = some o) :
    Step a { a with value := o, saved := [] }

/-- The object that a name has apart from its stand-in. -/
def base (a : Slot) : Object := a.original.getD a.value

/-- The object that undoing everything leaves: the oldest saved one, if there is any. -/
def settled (a : Slot) : Object := a.saved.getLast?.getD a.base

/-- Mocking and unmocking keep the object of the start, and so does restoring when no other object
was saved. -/
theorem Step.base_eq {a b : Slot} {p : Object} (h : Step a b) (hsaved : ∀ o ∈ a.saved, o = p)
    (hbase : a.base = p) : b.base = p := by
  unfold base at hbase ⊢
  cases h with
  | stay => exact hbase
  | mock x h =>
      rw [h] at hbase
      exact hbase
  | unmock q h =>
      rw [h] at hbase
      exact hbase
  | save => exact hbase
  | restore o rest h =>
      have ho : o = p := hsaved o (by rw [h]; exact List.mem_cons_self)
      cases horiginal : a.original with
      | none => exact ho
      | some q =>
          rw [horiginal] at hbase
          exact hbase
  | restoreAll o h =>
      have ho : o = p := hsaved o (List.mem_of_getLast? h)
      cases horiginal : a.original with
      | none => exact ho
      | some q =>
          rw [horiginal] at hbase
          exact hbase

theorem settled_eq {a : Slot} {p : Object} (hsaved : ∀ o ∈ a.saved, o = p) (hbase : a.base = p) :
    a.settled = p := by
  unfold settled
  cases h : a.saved.getLast? with
  | none => exact hbase
  | some o => exact hsaved o (List.mem_of_getLast? h)

end Slot

namespace World

/-- That a slot is what there is of a name. -/
structure Shows (w : World) (id : RegistryId) (name : String) (a : Slot) : Prop where
  value : w.own (w.registry id).home name = some a.value
  original : (w.registry id).replaced.get? name = a.original
  saved : (w.registry id).savedOf name = a.saved

/-! ## A step of a slot -/

section Step

variable {w : World} {id : RegistryId} {name : String} {a : Slot} {op : Operation}

/-- An operation leaves the slots of the names alone that it does not touch. -/
theorem Shows.perform_of_not_touched (ha : w.Shows id name a)
    (hname : name ∉ op.touches (w.registry id)) : (w.perform id op).1.Shows id name a := by
  have hrecord := (perform_effect w id op).record
  have hconfined := perform_confined w id op
  have hwrites : name ∉ op.writes (w.registry id) := fun hc =>
    hname (Operation.mem_touches_of_mem_writes hc)
  refine ⟨?_, ?_, ?_⟩
  · rw [hconfined.home, hconfined.own _ _ hwrites]
    exact ha.value
  · rw [hconfined.original name hwrites]
    exact ha.original
  · rw [hrecord.savedOf_eq hname]
    exact ha.saved

/-- The slot of a name after the name was written and the record changed. -/
theorem Shows.of_wrote {w' : World} {r : Registry} {b : Slot} (ha : w.Shows id name a)
    (hwrote : Wrote (w.setRegistry id r) w' name b.value (w.Follows (w.registry id) name))
    (hhome : r.home = (w.registry id).home) (horiginal : r.replaced.get? name = b.original)
    (hsaved : r.savedOf name = b.saved) : w'.Shows id name b := by
  have hr : w'.registry id = r := by
    rw [hwrote.registry, registry_setRegistry, if_pos rfl]
  refine ⟨?_, ?_, ?_⟩ <;> rw [hr]
  · rw [hhome]
    exact hwrote.gets _ ((follows_of_own ha.value _).mpr (.inl rfl))
  · exact horiginal
  · exact hsaved

theorem mock_slot (h : Ready w id) (hname : name ≠ nameKey) (ha : w.Shows id name a)
    (standIn : Option Object) :
    ∃ b, (w.mock id name standIn).1.Shows id name b ∧ a.Step b := by
  have hmocked := ha.original
  cases horiginal : a.original with
  | some p =>
      rw [horiginal] at hmocked
      rw [mock_of_mocked hmocked]
      exact ⟨a, ha, .stay a⟩
  | none =>
      rw [horiginal] at hmocked
      cases hmade : w.standInFor (w.registry id).factory standIn with
      | mk w₀ made =>
          cases made with
          | error e =>
              -- The factory failed, before anything was recorded.
              obtain ⟨hwithin, hregistry⟩ := within_of_standInFor hmade
              rw [mock_of_not_made ha.value hmocked hmade]
              refine ⟨a, ⟨?_, ?_, ?_⟩, .stay a⟩ <;> rw [hregistry]
              · rw [hwithin.own _ _ not_false]
                exact ha.value
              · exact ha.original
              · exact ha.saved
          | ok x =>
              obtain ⟨w', hmock, hwrote⟩ := mock_accepted standIn hname h.named ha.value hmocked
                hmade fun s hs => h.accepts s (mem_targets_of_follows hs)
              rw [hmock]
              refine ⟨{ a with value := x, original := some a.value }, ?_, .mock a x horiginal⟩
              exact ha.of_wrote (r := (w.registry id).putReplaced name a.value) hwrote rfl
                (Table.get?_put_self _ _ _) ha.saved

theorem unmock_slot (h : Ready w id) (hname : name ≠ nameKey) (ha : w.Shows id name a) :
    ∃ b, (w.unmock id name).1.Shows id name b ∧ a.Step b := by
  have hmocked := ha.original
  cases horiginal : a.original with
  | none =>
      rw [horiginal] at hmocked
      refine ⟨a, ?_, .stay a⟩
      obtain ⟨-, hunmock⟩ | ⟨p, -, -, hp, -⟩ := unmock_cases w id name
      · rw [hunmock]
        exact ha
      · rw [hmocked] at hp
        cases hp
  | some p =>
      rw [horiginal] at hmocked
      obtain ⟨w', hunmock, hwrote⟩ := unmock_accepted hname h.named hmocked fun s hs =>
        h.accepts s (mem_targets_of_follows hs)
      have hregistry : w'.registry id = w.registry id := by rw [hwrote.registry]
      rw [hunmock]
      refine ⟨_, ⟨?_, ?_, ?_⟩, .unmock a p horiginal⟩ <;> rw [registry_setRegistry, if_pos rfl]
      · exact hwrote.gets _ ((follows_of_own ha.value _).mpr (.inl rfl))
      · exact (Table.get?_drop _ _ _).trans (if_pos rfl)
      · exact ha.saved

theorem save_slot (ha : w.Shows id name a) :
    ∃ b, (w.save id name).1.Shows id name b ∧ a.Step b := by
  refine ⟨_, ?_, .save a [a.value] fun o ho => List.mem_singleton.mp ho⟩
  rw [save_of_own ha.value]
  refine ⟨?_, ?_, ?_⟩ <;> rw [registry_setRegistry, if_pos rfl]
  · exact ha.value
  · exact ha.original
  · rw [Registry.savedOf_putSaved, if_pos rfl, ha.saved]
    rfl

theorem restore_slot (h : Ready w id) (hname : name ≠ nameKey) (ha : w.Shows id name a) :
    ∃ b, (w.restore id name).1.Shows id name b ∧ a.Step b := by
  have hsaved := ha.saved
  cases hstack : a.saved with
  | nil =>
      rw [hstack] at hsaved
      refine ⟨a, ?_, .stay a⟩
      obtain ⟨-, hrestore⟩ | ⟨o, rest, -, -, ho, -⟩ := restore_cases w id name
      · rw [hrestore]
        exact ha
      · rw [hsaved] at ho
        cases ho
  | cons o rest =>
      rw [hstack] at hsaved
      obtain ⟨w', hrestore, hwrote⟩ := restore_accepted hname h.named hsaved fun s hs =>
        h.accepts s (mem_targets_of_follows hs)
      rw [hrestore]
      refine ⟨{ a with value := o, saved := rest }, ?_, .restore a o rest hstack⟩
      refine ha.of_wrote (r := (w.registry id).putSaved name rest) hwrote rfl ha.original ?_
      rw [Registry.savedOf_putSaved, if_pos rfl]

theorem unmockAll_shows (h : Ready w id) (ha : w.Shows id name a) :
    (w.unmockAll id).1.Shows id name { a with value := a.base, original := none } := by
  obtain ⟨-, hregistry, hown⟩ := unmockAll_accepted h
  have hsome : (w.own (w.registry id).home name).isSome := by
    rw [ha.value]
    rfl
  refine ⟨?_, ?_, ?_⟩ <;> rw [hregistry]
  · rw [hown, ownAfter_home hsome, ha.original, ha.value]
    unfold Slot.base
    cases a.original <;> rfl
  · rfl
  · exact ha.saved

theorem saveAll_slot (ha : w.Shows id name a) :
    ∃ b, (w.saveAll id).1.Shows id name b ∧ a.Step b := by
  obtain ⟨pushed, hpushed, hsaved⟩ := saveEach_of_own (w.registry id).mutables ha.value
  have heffect := saveEach_effect (fun _ => False) id (w.registry id).mutables w
  obtain ⟨⟨saved, hrecord⟩, -⟩ := heffect.record
  refine ⟨_, ⟨?_, ?_, ?_⟩, .save a pushed hpushed⟩
  · unfold saveAll
    rw [hrecord, heffect.own _ _ not_false]
    exact ha.value
  · unfold saveAll
    rw [hrecord]
    exact ha.original
  · rw [ha.saved] at hsaved
    exact hsaved

/-- Restoring all names puts the oldest saved object of each back, if there is one. -/
theorem restoreAll_shows (h : Ready w id) (hname : name ∈ (w.registry id).mutables)
    (ha : w.Shows id name a) :
    (w.restoreAll id).1.Shows id name
      { a with value := a.saved.getLast?.getD a.value, saved := [] } := by
  obtain ⟨-, hreplaced, hnames⟩ :=
    restoreEach_accepted id (w.registry id).mutables w (fun _ => h.unsaved) h.named h.accepts
  obtain ⟨hsaved, hown⟩ := hnames name
  obtain ⟨-, -, hhome, -⟩ := (perform_effect w id .restoreAll).record.constant
  have hsome : (w.own (w.registry id).home name).isSome := by
    rw [ha.value]
    rfl
  refine ⟨?_, ?_, ?_⟩
  · rw [show ((w.restoreAll id).1.registry id).home = (w.registry id).home from hhome]
    refine (hown _).trans ?_
    rw [if_pos hname, ownAfter_home hsome, ha.saved, ha.value]
    cases a.saved.getLast? <;> rfl
  · refine (congrArg (Table.get? · name) hreplaced).trans ?_
    exact ha.original
  · exact hsaved.trans (if_pos hname)

/-- **What an operation does to a slot.** -/
theorem perform_slot (h : Ready w id) (hname : name ≠ nameKey) (ha : w.Shows id name a)
    (op : Operation) : ∃ b, (w.perform id op).1.Shows id name b ∧ a.Step b := by
  by_cases htouched : name ∈ op.touches (w.registry id)
  · -- An operation on a single name is one on this name.
    cases op with
    | mock other standIn =>
        obtain rfl := List.mem_singleton.mp htouched
        exact mock_slot h hname ha standIn
    | unmock other =>
        obtain rfl := List.mem_singleton.mp htouched
        exact unmock_slot h hname ha
    | unmockAll =>
        obtain ⟨p, hp⟩ := Option.isSome_iff_exists.mp ((Table.mem_names_iff _ _).mp htouched)
        have horiginal : a.original = some p := ha.original.symm.trans hp
        have hshows := unmockAll_shows h ha
        have hbase : a.base = p := by
          unfold Slot.base
          rw [horiginal]
          rfl
        rw [hbase] at hshows
        exact ⟨_, hshows, .unmock a p horiginal⟩
    | save other =>
        obtain rfl := List.mem_singleton.mp htouched
        exact save_slot ha
    | restore other =>
        obtain rfl := List.mem_singleton.mp htouched
        exact restore_slot h hname ha
    | saveAll => exact saveAll_slot ha
    | restoreAll =>
        have hshows := restoreAll_shows h htouched ha
        cases hlast : a.saved.getLast? with
        | none =>
            rw [hlast, ← List.getLast?_eq_none_iff.mp hlast] at hshows
            exact ⟨a, hshows, .stay a⟩
        | some o =>
            rw [hlast] at hshows
            exact ⟨_, hshows, .restoreAll a o hlast⟩
    | reset | resetAll | addAlias => exact absurd htouched List.not_mem_nil
  · exact ⟨a, ha.perform_of_not_touched htouched, .stay a⟩

end Step

/-! ## Runs -/

section Run

variable {id : RegistryId} {name : String} {p : Object}

/-- That a registry is ready for a run of operations: none of them is about the module's own name,
which is not among those that may be assigned again, and the spaces that become aliases accept. -/
structure ReadyFor (w : World) (id : RegistryId) (ops : List Operation) : Prop where
  ready : Ready w id
  fixed : nameKey ∉ (w.registry id).mutables
  about : ∀ op ∈ ops, op.name? ≠ some nameKey
  accepts : ∀ op ∈ ops, ∀ s ∈ op.alias?, w.Accepts s

namespace ReadyFor

variable {w : World} {op : Operation} {ops : List Operation}

/-- After the first operation it is ready for the others. -/
theorem tail (h : ReadyFor w id (op :: ops)) : ReadyFor (w.perform id op).1 id ops := by
  have hconfined := perform_confined w id op
  have htouched := h.ready.nameKey_not_touched h.fixed (h.about op List.mem_cons_self)
  have hready := h.ready.perform htouched (h.accepts op List.mem_cons_self)
  refine ⟨hready, ?_, fun op' hop' => h.about op' (List.mem_cons_of_mem op hop'),
    fun op' hop' s hs => ?_⟩
  · rw [hconfined.mutables]
    exact h.fixed
  · exact hconfined.accepts (h.accepts op' (List.mem_cons_of_mem op hop') s hs)

/-- The registry is ready at the end of the run, and about the same names of the same module. -/
theorem after_run (h : ReadyFor w id ops) :
    Ready (performAll id ops w) id ∧
      ((performAll id ops w).registry id).mutables = (w.registry id).mutables ∧
      ((performAll id ops w).registry id).home = (w.registry id).home := by
  induction ops generalizing w with
  | nil => exact ⟨h.ready, rfl, rfl⟩
  | cons op ops ih =>
      have hconfined := perform_confined w id op
      obtain ⟨hready, hmutables, hhome⟩ := ih h.tail
      exact ⟨hready, hmutables.trans hconfined.mutables, hhome.trans hconfined.home⟩

end ReadyFor

/-- That at no time of a run anything but one object is saved under a name. -/
def SavesOnly (w : World) (id : RegistryId) (ops : List Operation) (name : String) (p : Object) :
    Prop :=
  ∀ k ≤ ops.length, ∀ o ∈ ((performAll id (ops.take k) w).registry id).savedOf name, o = p

instance (w : World) (id : RegistryId) (ops : List Operation) (name : String) (p : Object) :
    Decidable (SavesOnly w id ops name p) :=
  inferInstanceAs (Decidable (∀ k ≤ ops.length,
    ∀ o ∈ ((performAll id (ops.take k) w).registry id).savedOf name, o = p))

theorem SavesOnly.cons {w : World} {op : Operation} {ops : List Operation}
    (h : SavesOnly w id (op :: ops) name p) :
    (∀ o ∈ (w.registry id).savedOf name, o = p) ∧
      SavesOnly (w.perform id op).1 id ops name p :=
  ⟨h 0 (Nat.zero_le _), fun k hk => h (k + 1) (Nat.succ_le_succ hk)⟩

theorem SavesOnly.last {w : World} {ops : List Operation} (h : SavesOnly w id ops name p) :
    ∀ o ∈ ((performAll id ops w).registry id).savedOf name, o = p := by
  have hlast := h ops.length (Nat.le_refl _)
  rw [List.take_length] at hlast
  exact hlast

/-- **What a run does to a slot.**  As long as only one object is saved under the name, that object
is kept.  The induction is on the run. -/
theorem performAll_slot {ops : List Operation} {w : World} (h : ReadyFor w id ops)
    (hname : name ≠ nameKey) {a : Slot} (ha : w.Shows id name a) :
    ∃ b, (performAll id ops w).Shows id name b ∧
      (SavesOnly w id ops name p → a.base = p → b.base = p) := by
  induction ops generalizing w a with
  | nil => exact ⟨a, ha, fun _ hbase => hbase⟩
  | cons op ops ih =>
      obtain ⟨b, hb, hstep⟩ := perform_slot h.ready hname ha op
      obtain ⟨c, hc, hkept⟩ := ih h.tail hb
      refine ⟨c, hc, fun hsaves hbase => ?_⟩
      -- What was saved before this step is what a step may restore.
      obtain ⟨hnow, hlater⟩ := hsaves.cons
      rw [ha.saved] at hnow
      exact hkept hlater (hstep.base_eq hnow hbase)

end Run

/-! ## Undoing everything -/

/-- **Undoing everything** leaves the settled object, and nothing recorded or saved. -/
theorem undo_shows {w : World} {id : RegistryId} {name : String} {a : Slot} (h : Ready w id)
    (hname : name ∈ (w.registry id).mutables) (ha : w.Shows id name a) :
    (w.undo id).1.Shows id name ⟨a.settled, none, []⟩ := by
  obtain ⟨-, hregistry, -⟩ := unmockAll_accepted h
  rw [undo_eq h]
  refine restoreAll_shows h.unmockAll ?_ (unmockAll_shows h ha)
  rw [hregistry]
  exact hname

/-- **A run of operations, and then undoing everything.**  The registry is the only one; it starts
with nothing replaced and nothing saved; its module is named; the names it knows are held by its
module and may be assigned again; no operation is about the module's own name; and all spaces in
question accept.
Then undoing everything succeeds, and each name reads its settled object: the oldest one saved for
it, or else the one recorded when it was mocked, or else its own.  That is the object of the start
if nothing else was ever saved for the name. -/
theorem undo_after_run (w : World) (id : RegistryId) (ops : List Operation)
    (hreplaced : (w.registry id).replaced = [])
    (hunsaved : ∀ name, (w.registry id).savedOf name = []) (hnamed : w.Named (w.registry id))
    (hnames : ∀ name ∈ (w.registry id).bindings,
      name ∈ (w.registry id).mutables ∧ (w.own (w.registry id).home name).isSome)
    (hkey : nameKey ∉ (w.registry id).mutables) (hops : ∀ op ∈ ops, op.name? ≠ some nameKey)
    (haccept : ∀ s ∈ w.targetsDuring id ops, w.Accepts s) :
    let w' := undoAll [id] (performAll id ops w)
    w'.2 = .ok () ∧ ∀ name ∈ (w.registry id).bindings,
      ∃ p, w.own (w.registry id).home name = some p ∧
        (∃ a, (performAll id ops w).Shows id name a ∧
          w'.1.read (w.registry id).home name = some (.held a.settled)) ∧
        (SavesOnly w id ops name p → w'.1.read (w.registry id).home name = some (.held p)) := by
  have hready : ReadyFor w id ops := by
    refine ⟨.of_unused (fun s hs => ?_) hnamed hreplaced (hunsaved nameKey), hkey, hops,
      fun op hop s hs => ?_⟩
    · exact haccept s (List.mem_append_left _ hs)
    · exact haccept s (List.mem_append_right _ (List.mem_filterMap.mpr ⟨op, hop, hs⟩))
  obtain ⟨hready', hmutables, hhome⟩ := hready.after_run
  dsimp only
  -- The registry is the only one, so that undoing everything is undoing what it did.
  rw [undoAll_cons hready']
  refine ⟨rfl, fun name hbinding => ?_⟩
  obtain ⟨hmutable, hlocal⟩ := hnames name hbinding
  obtain ⟨p, hp⟩ := Option.isSome_iff_exists.mp hlocal
  have hne : name ≠ nameKey := fun h => hkey (h ▸ hmutable)
  have hstart : w.Shows id name ⟨p, none, []⟩ := by
    refine ⟨hp, ?_, hunsaved name⟩
    rw [hreplaced]
    rfl
  obtain ⟨a, ha, hkept⟩ := performAll_slot (p := p) hready hne hstart
  have hsettled := (undo_shows hready' (by rw [hmutables]; exact hmutable) ha).value
  have hread : (undoAll [] ((performAll id ops w).undo id).1).1.read (w.registry id).home name =
      some (.held a.settled) := by
    rw [← hhome, ← home_undo hready']
    exact read_of_own hsettled
  refine ⟨p, hp, ⟨a, ha, hread⟩, fun hsaves => ?_⟩
  rw [hread, Slot.settled_eq _ (hkept hsaves rfl)]
  rw [← ha.saved]
  exact hsaves.last

/-- The function comes back after it was saved, mocked and restored, and the helper after it was
mocked twice. -/
theorem undo_after_run_birdhouse :
    let ops : List Operation := [.save "fetch", .mock "fetch" (some (.item 9 .resettable)),
      .mock "helper" none, .restore "fetch", .unmock "helper", .mock "helper" (some .nothing)]
    let w' := undoAll [0] (performAll 0 ops birdhouse)
    w'.2 = .ok () ∧ w'.1.read 0 "fetch" = some (.held fetch) ∧
      w'.1.read 0 "helper" = some (.held (.item 2 .function)) := by
  obtain ⟨hok, hnames⟩ := undo_after_run birdhouse 0 [.save "fetch",
    .mock "fetch" (some (.item 9 .resettable)), .mock "helper" none, .restore "fetch",
    .unmock "helper", .mock "helper" (some .nothing)] rfl (fun _ => rfl) (by decide) (by decide)
    (by decide) (by decide) (by decide +kernel)
  obtain ⟨p, hp, -, hfetch⟩ := hnames "fetch" (by decide)
  obtain ⟨q, hq, -, hhelper⟩ := hnames "helper" (by decide)
  obtain rfl : fetch = p := Option.some.inj hp
  obtain rfl : Object.item 2 .function = q := Option.some.inj hq
  exact ⟨hok, hfetch (by decide +kernel), hhelper (by decide +kernel)⟩

/-- So undoing everything does not always bring the start back: a stand-in that was saved while it
stood in is put back after the object that it stood in for. -/
theorem not_read_undo_after_run :
    ¬ ∀ (w : World) (id : RegistryId) (ops : List Operation), (w.registry id).replaced = [] →
      (∀ name, (w.registry id).savedOf name = []) → w.Named (w.registry id) →
      (∀ name ∈ (w.registry id).bindings,
        name ∈ (w.registry id).mutables ∧ (w.own (w.registry id).home name).isSome) →
      (∀ op ∈ ops, op.name? ≠ some nameKey) →
      (∀ name x, .mock name (some x) ∈ ops → x.isScalar = false ∧
        ∀ s other, w.read s other ≠ some (.held x)) →
      (∀ s ∈ w.targetsDuring id ops, w.Accepts s) →
      ∀ name ∈ (w.registry id).bindings,
        (undoAll [id] (performAll id ops w)).1.read (w.registry id).home name =
          w.read (w.registry id).home name := by
  intro h
  have hfetch := h birdhouse 0 [.mock "fetch" (some (.item 9 .resettable)), .save "fetch"] rfl
    (fun _ => rfl) (by decide) (by decide) (by decide) ?_ (by decide +kernel) "fetch" (by decide)
  · exact absurd hfetch (by decide +kernel)
  · intro name x hx
    obtain ⟨-, rfl⟩ : name = "fetch" ∧ x = .item 9 .resettable := by simpa using hx
    exact ⟨rfl, read_birdhouse_ne (by decide) .resettable⟩

end World

end Standin
