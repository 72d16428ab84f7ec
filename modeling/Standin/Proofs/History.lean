/-
What a registry has on record, read off its history.

A registry does a few things to a name: it mocks and unmocks it, saves it, and restores
it, by itself or with all others.  A run is told as the list of these `Deed`s, those of
the operations that succeeded, with the objects that were read at the time; what code
of the modules did in between only shows in these objects.

The record can be read off the list afterwards.  The object recorded as replaced is that
of the last mocking, if no unmocking came after it.  The saved objects are those of the
savings that no restoring has met: going back from the newest deed, each restoring takes
the next saving that is not taken yet (`standing`).  The registry itself keeps a stack
and knows nothing of the past.  That both agree is proved in two steps: an operation
enters its deeds in the record (`perform_entered`), and entering a history one deed after
another comes to the same as reading it backwards (`foldl_enter`).
-/
import Standin.Proofs.Writes

set_option autoImplicit false

namespace Standin

/-! ## Histories of a name -/

/-- Something that a registry has done to a name. -/
inductive Deed where
  /-- It was mocked, after the object was read. -/
  | mocked (previous : Object)
  /-- It was unmocked, alone or with all others. -/
  | unmocked
  /-- The object was read and saved. -/
  | saved (o : Object)
  /-- The newest saved object was put back. -/
  | restored
  /-- All names that may be assigned again, this one among them, were restored. -/
  | restoredAll
  deriving DecidableEq, Repr

namespace Deed

/-- Deeds to the name `k`, as far as they concern another one: only if it is the same. -/
def about (k name : String) (done : List Deed) : List Deed := if name = k then done else []

/-- What a deed says of the object recorded as replaced: that it is there, or that there is none.
Saving and restoring say nothing of it. -/
def record? : Deed → Option (Option Object)
  | .mocked previous => some (some previous)
  | .unmocked => some none
  | .saved _ | .restored | .restoredAll => none

/-- The object recorded after a history: what the last deed says that says anything. -/
def original? (history : List Deed) : Option Object :=
  (history.reverse.findSome? record?).join

/-- An object is recorded if the name was mocked and not unmocked since. -/
theorem original?_eq_some_iff (history : List Deed) (p : Object) :
    original? history = some p ↔
      ∃ before after, history = before ++ .mocked p :: after ∧
        ∀ deed ∈ after, deed.record? = none := by
  have hmocked : ∀ deed : Deed, deed.record? = some (some p) ↔ deed = .mocked p := by
    intro deed
    cases deed <;> simp [record?]
  unfold original?
  rw [Option.join_eq_some_iff, List.findSome?_eq_some_iff]
  constructor
  · rintro ⟨newer, deed, older, hreverse, hdeed, hnewer⟩
    rw [hmocked] at hdeed
    refine ⟨older.reverse, newer.reverse, ?_, fun d hd => hnewer d (List.mem_reverse.mp hd)⟩
    rw [← List.reverse_reverse history, hreverse, hdeed]
    simp
  · rintro ⟨before, after, rfl, hafter⟩
    refine ⟨after.reverse, .mocked p, before.reverse, by simp, rfl, fun d hd => ?_⟩
    exact hafter d (List.mem_reverse.mp hd)

/-- Reads deeds from the newest to the oldest and gives the saved objects that stand, where as many
restorings as `owed` have not met their saving yet.  What lies before a restoring of all names was
discarded by it. -/
def standing (owed : Nat) : List Deed → List Object
  | [] => []
  | .saved o :: older =>
    match owed with
    | 0 => o :: standing 0 older
    | owed + 1 => standing owed older
  | .restored :: older => standing (owed + 1) older
  | .restoredAll :: _ => []
  | .mocked _ :: older | .unmocked :: older => standing owed older

/-- The objects that are saved after a history, the newest first. -/
def stack (history : List Deed) : List Object := standing 0 history.reverse

/-- Each restoring takes one object more. -/
theorem standing_eq_drop (owed : Nat) (newest : List Deed) :
    standing owed newest = (standing 0 newest).drop owed := by
  induction newest generalizing owed with
  | nil => exact List.drop_nil.symm
  | cons deed older ih =>
      cases deed with
      | mocked | unmocked => exact ih owed
      | saved o =>
          cases owed with
          | zero => rfl
          | succ owed => exact ih owed
      | restored =>
          calc standing (owed + 1) older
              = (standing 0 older).drop (owed + 1) := ih (owed + 1)
            _ = ((standing 0 older).drop 1).drop owed := by rw [List.drop_drop, Nat.add_comm]
            _ = (standing 1 older).drop owed := by rw [ih 1]
      | restoredAll => exact List.drop_nil.symm

end Deed

/-- What a record says of a name: the object recorded as replaced, and the saved objects, newest
first. -/
structure Books where
  original : Option Object
  stack : List Object

namespace Books

/-- The books after one more deed. -/
def enter (b : Books) : Deed → Books
  | .mocked previous => { b with original := some previous }
  | .unmocked => { b with original := none }
  | .saved o => { b with stack := o :: b.stack }
  | .restored => { b with stack := b.stack.tail }
  | .restoredAll => { b with stack := [] }

/-- Only deeds to the name itself are entered. -/
theorem foldl_enter_about (k name : String) (done : List Deed) (b : Books) :
    (Deed.about k name done).foldl enter b = if name = k then done.foldl enter b else b := by
  unfold Deed.about
  split <;> rfl

/-- **Entering a history** in empty books comes to the same as reading it backwards. -/
theorem foldl_enter (history : List Deed) :
    history.foldl enter ⟨none, []⟩ = ⟨Deed.original? history, Deed.stack history⟩ := by
  -- The newest deed is entered last and read first, so the induction is on the reversed list.
  rw [List.foldl_eq_foldr_reverse]
  unfold Deed.original? Deed.stack
  induction history.reverse with
  | nil => rfl
  | cons deed older ih =>
      rw [List.foldr_cons, ih]
      cases deed with
      | mocked | unmocked | saved | restoredAll => rfl
      | restored =>
          show Books.mk _ (Deed.standing 0 older).tail = Books.mk _ (Deed.standing 1 older)
          rw [Deed.standing_eq_drop 1, List.drop_one]
          rfl

end Books

namespace Registry

/-- What the record of a registry says of a name. -/
def books (r : Registry) (name : String) : Books := ⟨r.replaced.get? name, r.savedOf name⟩

theorem books_putReplaced (r : Registry) (k : String) (p : Object) (name : String) :
    (r.putReplaced k p).books name =
      if name = k then (r.books name).enter (.mocked p) else r.books name := by
  have hget : (r.putReplaced k p).replaced.get? name =
      if name = k then some p else r.replaced.get? name := Table.get?_put _ _ _ _
  unfold books
  rw [hget]
  split <;> rfl

theorem books_dropReplaced (r : Registry) (k name : String) :
    (r.dropReplaced k).books name =
      if name = k then (r.books name).enter .unmocked else r.books name := by
  have hget : (r.dropReplaced k).replaced.get? name =
      if name = k then none else r.replaced.get? name := Table.get?_drop _ _ _
  unfold books
  rw [hget]
  split <;> rfl

theorem books_putSaved (r : Registry) (k : String) (stack : List Object) (name : String) :
    (r.putSaved k stack).books name =
      if name = k then { r.books name with stack := stack } else r.books name := by
  unfold books
  rw [savedOf_putSaved]
  split <;> rfl

end Registry

namespace Operation

/-- The operations by which names are mocked, unmocked and reset. -/
def isMocking : Operation → Bool
  | .mock .. | .unmock _ | .unmockAll | .reset _ | .resetAll => true
  | .save _ | .restore _ | .saveAll | .restoreAll | .addAlias _ => false

/-- The operations by which names are saved and restored. -/
def isSaving : Operation → Bool
  | .save _ | .restore _ | .saveAll | .restoreAll => true
  | .mock .. | .unmock _ | .unmockAll | .reset _ | .resetAll | .addAlias _ => false

end Operation

namespace RecordStep

variable {op : Operation} {r r' : Registry}

/-- Mocking, unmocking and resetting leave what is saved alone. -/
theorem savedOf_of_isMocking (h : RecordStep op r r') (hop : op.isMocking = true) (name : String) :
    r'.savedOf name = r.savedOf name := by
  cases h with
  | same | mock | unmock | unmockAll => rfl
  | save | restore | saveAll | restoreAll | addAlias => cases hop

/-- Saving and restoring leave what is replaced alone. -/
theorem replaced_of_isSaving (h : RecordStep op r r') (hop : op.isSaving = true) :
    r'.replaced = r.replaced := by
  cases h with
  | same | save | restore => rfl
  | saveAll _ _ h | restoreAll _ _ h =>
      obtain ⟨⟨saved, rfl⟩, -⟩ := h
      rfl
  | mock | unmock | unmockAll | addAlias => cases hop

end RecordStep

namespace World

/-! ## The history of a run -/

/-- What saving the names of a list, one after another, does to a name: each time it comes up, the
object that is read then is saved. -/
def savings (id : RegistryId) (name : String) : List String → World → List Deed
  | [], _ => []
  | k :: rest, w =>
    Deed.about k name ((w.reading (w.registry id) k).toList.map .saved) ++
      savings id name rest (w.save id k).1

/-- What an operation does to a name if it succeeds. -/
def deeds (w : World) (id : RegistryId) (name : String) : Operation → List Deed
  | .mock k _ => Deed.about k name ((w.reading (w.registry id) k).toList.map .mocked)
  | .unmock k => Deed.about k name [.unmocked]
  | .unmockAll => [.unmocked]
  | .save k => savings id name [k] w
  | .restore k => Deed.about k name [.restored]
  | .saveAll => savings id name (w.registry id).mutables w
  | .restoreAll => if name ∈ (w.registry id).mutables then [.restoredAll] else []
  | .reset _ | .resetAll | .addAlias _ => []

/-- What a registry does to a name by an action: that of an operation of its own that succeeds. -/
def deedsOf (w : World) (id : RegistryId) (name : String) : Action → List Deed
  | .operate i op =>
    if i = id then (if (w.perform id op).2.isOk then w.deeds id name op else []) else []
  | .put .. | .drop .. | .load .. | .unload _ => []

/-- What a registry does to a name in a run of actions, the oldest first. -/
def history (id : RegistryId) (name : String) : List Action → World → List Deed
  | [], _ => []
  | a :: rest, w => w.deedsOf id name a ++ history id name rest (w.act a)

/-- Whether an action is an operation of a registry that does not get a write everywhere. -/
def blocks (w : World) (id : RegistryId) : Action → Bool
  | .operate i op => i == id && isBlocked (w.perform i op)
  | .put .. | .drop .. | .load .. | .unload _ => false

/-! ## What operations enter -/

/-- That an operation with nothing in its way has entered some deeds of a name in the record if it
has succeeded, and else nothing. -/
def Entered {α : Type} (id : RegistryId) (name : String) (w : World) (done : List Deed)
    (result : Result α) : Prop :=
  isBlocked result = false → (result.1.registry id).books name =
    (if result.2.isOk then done else []).foldl Books.enter ((w.registry id).books name)

namespace Entered

variable {α : Type} {id : RegistryId} {name : String} {w w' : World} {done : List Deed}

/-- An operation that failed and left the record alone. -/
theorem failed (h : w'.registry id = w.registry id) (e : Failure) :
    Entered id name w done ((w', .error e) : Result α) := by
  intro _
  show (w'.registry id).books name = _
  rw [h]
  rfl

/-- Of an operation that found something in its way nothing is said. -/
theorem of_blocked (obstacle : Obstacle) :
    Entered id name w done ((w', .error (.blocked obstacle)) : Result α) := by
  intro hok
  cases hok

theorem succeeded
    (h : (w'.registry id).books name = done.foldl Books.enter ((w.registry id).books name))
    (answer : α) : Entered id name w done ((w', .ok answer) : Result α) := fun _ => h

/-- An operation that does nothing to the name and leaves its books alone. -/
theorem nothing {result : Result α}
    (h : (result.1.registry id).books name = (w.registry id).books name) :
    Entered id name w [] result := by
  intro _
  rw [h, ite_self]
  rfl

/-- What is made of an answer does not matter. -/
theorem map {β : Type} {result : Result α} (h : Entered id name w done result) (f : α → β) :
    Entered id name w done (result.1, result.2.map f) := by
  obtain ⟨w', e | answer⟩ := result
  · intro hok
    refine h ?_
    cases e <;> first | rfl | exact hok
  · exact h

end Entered

section Entering

variable (w : World) (id : RegistryId) (name : String)

theorem mock_entered (k : String) (standIn : Option Object) :
    Entered id name w (Deed.about k name ((w.reading (w.registry id) k).toList.map .mocked))
      (w.mock id k standIn) := by
  obtain ⟨w₀, -, hregistry, ⟨e, hmock⟩ | ⟨p, o, w', obstacle?, hreading, hinstall, hmock⟩⟩ :=
    mock_cases w id k standIn
  all_goals rw [hmock]
  · exact .failed (congrFun hregistry id) e
  · cases obstacle? with
    | some obstacle => exact .of_blocked obstacle
    | none =>
        have hrecord : w'.registry id = (w.registry id).putReplaced k p :=
          (congrFun (registry_of_install hinstall) id).trans (if_pos rfl)
        refine .succeeded ?_ o
        rw [hrecord, Registry.books_putReplaced, hreading, Books.foldl_enter_about]
        rfl

theorem unmock_entered (k : String) :
    Entered id name w (Deed.about k name [.unmocked]) (w.unmock id k) := by
  obtain ⟨-, hunmock⟩ | ⟨p, w', obstacle?, -, -, hunmock⟩ := unmock_cases w id k
  all_goals rw [hunmock]
  · exact .failed rfl _
  · cases obstacle? with
    | some obstacle => exact .of_blocked obstacle
    | none =>
        refine .succeeded ?_ p
        rw [registry_setRegistry, if_pos rfl, Registry.books_dropReplaced, Books.foldl_enter_about]
        rfl

theorem unmockAll_entered : Entered id name w [.unmocked] (w.unmockAll id) := by
  obtain ⟨w', obstacle, -, hunmock⟩ | ⟨w', -, hunmock⟩ := unmockAll_cases w id
  all_goals rw [hunmock]
  · exact .of_blocked obstacle
  · refine .succeeded ?_ _
    rw [registry_setRegistry, if_pos rfl]
    rfl

/-- Saving a name enters what is read, and nothing if nothing is read. -/
theorem books_save (k : String) :
    ((w.save id k).1.registry id).books name =
      (Deed.about k name ((w.reading (w.registry id) k).toList.map .saved)).foldl Books.enter
        ((w.registry id).books name) := by
  have hreading : w.reading (w.registry id) k =
      (w.valueOf (w.registry id) k).map fun sight => (w.take sight).1 := rfl
  rw [Books.foldl_enter_about, hreading]
  obtain ⟨hvalue, hsave⟩ | ⟨sight, hvalue, hsave⟩ := save_cases w id k
  all_goals rw [hsave, hvalue]
  · exact (ite_self _).symm
  · rw [registry_setRegistry, if_pos rfl, Registry.books_putSaved]
    split
    · rename_i hk
      rw [hk]
      rfl
    · rfl

/-- Saving the names of a list enters the savings, one after another. -/
theorem books_saveEach (names : List String) :
    ((saveEach id names w).registry id).books name =
      (savings id name names w).foldl Books.enter ((w.registry id).books name) := by
  induction names generalizing w with
  | nil => rfl
  | cons k rest ih =>
      rw [saveEach, ih, books_save]
      exact List.foldl_append.symm

theorem save_entered (k : String) :
    Entered id name w (savings id name [k] w) (w.save id k) := by
  have hbooks := books_saveEach w id name [k]
  rw [saveEach, saveEach] at hbooks
  obtain ⟨-, hsave⟩ | ⟨sight, -, hsave⟩ := save_cases w id k
  all_goals rw [hsave] at hbooks ⊢
  · exact .failed rfl _
  · exact .succeeded hbooks _

theorem restore_entered (k : String) :
    Entered id name w (Deed.about k name [.restored]) (w.restore id k) := by
  obtain ⟨-, hrestore⟩ | ⟨o, rest, w', obstacle?, hstack, hinstall, hrestore⟩ :=
    restore_cases w id k
  all_goals rw [hrestore]
  · exact .failed rfl _
  · cases obstacle? with
    | some obstacle => exact .of_blocked obstacle
    | none =>
        have hrecord : w'.registry id = (w.registry id).putSaved k rest :=
          (congrFun (registry_of_install hinstall) id).trans (if_pos rfl)
        refine .succeeded ?_ o
        rw [hrecord, Registry.books_putSaved, Books.foldl_enter_about]
        split
        · rename_i hk
          show Books.mk _ rest = Books.mk _ ((w.registry id).savedOf name).tail
          rw [hk, hstack]
          rfl
        · rfl

/-- Where nothing is in the way of restoring the names of a list it succeeds, and nothing is saved
for them any more. -/
theorem books_restoreEach (names : List String)
    (hok : isBlocked (restoreEach id names w) = false) :
    (restoreEach id names w).2 = .ok () ∧
      ((restoreEach id names w).1.registry id).books name =
        if name ∈ names then ((w.registry id).books name).enter .restoredAll
        else (w.registry id).books name := by
  induction names generalizing w with
  | nil => exact ⟨rfl, rfl⟩
  | cons k rest ih =>
      obtain ⟨hunsaved, hstep⟩ | ⟨oldest, w₁, obstacle, -, -, hstep⟩ |
        ⟨oldest, w₁, -, -, hstep⟩ := restoreEach_cases w id k rest
      all_goals rw [hstep] at hok ⊢
      · obtain ⟨hanswer, hbooks⟩ := ih w hok
        refine ⟨hanswer, hbooks.trans ?_⟩
        by_cases hk : name = k
        · -- Nothing was saved for the name that is passed by.
          have hnone : ((w.registry id).books name).enter .restoredAll =
              (w.registry id).books name := by
            show Books.mk _ [] = Books.mk _ ((w.registry id).savedOf name)
            rw [hk, hunsaved]
            rfl
          rw [hnone, ite_self, ite_self]
        · simp only [List.mem_cons, hk, false_or]
      · cases hok
      · obtain ⟨hanswer, hbooks⟩ := ih _ hok
        rw [registry_setRegistry, if_pos rfl, Registry.books_putSaved] at hbooks
        refine ⟨hanswer, hbooks.trans ?_⟩
        by_cases hk : name = k
        · -- Nothing is left for the name, whether it comes again or not.
          rw [if_pos hk, hk, if_pos List.mem_cons_self]
          exact ite_self _
        · simp only [List.mem_cons, hk, false_or, if_false]

theorem restoreAll_entered :
    Entered id name w (if name ∈ (w.registry id).mutables then [.restoredAll] else [])
      (w.restoreAll id) := by
  intro hok
  obtain ⟨hanswer, hbooks⟩ := books_restoreEach w id name (w.registry id).mutables hok
  have hsome : (w.restoreAll id).2.isOk = true := by
    unfold restoreAll
    rw [hanswer]
    rfl
  rw [hsome, if_pos rfl]
  refine hbooks.trans ?_
  split <;> rfl

/-- **What an operation enters** in the record of a name. -/
theorem perform_entered (op : Operation) :
    Entered id name w (w.deeds id name op) (w.perform id op) := by
  cases op with
  | mock k standIn => exact (mock_entered w id name k standIn).map some
  | unmock k => exact (unmock_entered w id name k).map some
  | unmockAll => exact (unmockAll_entered w id name).map fun _ => none
  | reset k =>
      have hregistry := (reset_within (fun _ => False) w id k).2
      exact .nothing (congrArg (fun r : RegistryId → Registry => (r id).books name) hregistry)
  | resetAll =>
      have hregistry := (resetEach_within (fun _ => False) (w.registry id)
        (w.registry id).replaced.names w).2
      exact .nothing (congrArg (fun r : RegistryId → Registry => (r id).books name) hregistry)
  | save k => exact (save_entered w id name k).map some
  | restore k => exact (restore_entered w id name k).map some
  | saveAll =>
      have hsaved : Entered id name w (savings id name (w.registry id).mutables w)
          (w.saveAll id) := .succeeded (books_saveEach w id name _) ()
      exact hsaved.map fun _ => none
  | restoreAll => exact (restoreAll_entered w id name).map fun _ => none
  | addAlias s =>
      refine .nothing ?_
      show ((w.addAlias id s).registry id).books name = _
      unfold addAlias Registry.addAlias
      rw [registry_setRegistry, if_pos rfl]
      split <;> rfl

end Entering

/-! ## What runs enter -/

section Run

variable {id : RegistryId} {name : String}

/-- An action enters what the registry does by it. -/
theorem books_act {w : World} {a : Action} (hok : w.blocks id a = false) :
    ((w.act a).registry id).books name =
      (w.deedsOf id name a).foldl Books.enter ((w.registry id).books name) := by
  cases a with
  | operate i op =>
      unfold deedsOf
      dsimp only
      by_cases hi : i = id
      · subst hi
        unfold blocks at hok
        dsimp only at hok
        rw [beq_self_eq_true, Bool.true_and] at hok
        rw [if_pos rfl]
        exact perform_entered w i name op hok
      · -- Another registry does not reach the record.
        rw [if_neg hi]
        show ((w.perform i op).1.registry id).books name = _
        rw [(perform_effect w i op).others id (Ne.symm hi)]
        rfl
  | put | drop | load | unload => rfl

/-- **A run enters its history**, if nothing is in the way of the registry's writes. -/
theorem books_actAll (actions : List Action) (w : World)
    (hok : ∀ k (hk : k < actions.length),
      (actAll (actions.take k) w).blocks id actions[k] = false) :
    ((actAll actions w).registry id).books name =
      (history id name actions w).foldl Books.enter ((w.registry id).books name) := by
  induction actions generalizing w with
  | nil => rfl
  | cons a rest ih =>
      have hfirst : w.blocks id a = false := hok 0 (Nat.zero_lt_succ _)
      have hrest := ih (w.act a) fun k hk => hok (k + 1) (Nat.succ_lt_succ hk)
      rw [actAll_cons, hrest, books_act hfirst]
      exact List.foldl_append.symm

end Run

/-! ## What restoring puts in place -/

section Restoring

variable {w w' : World} {r r' : Registry} {name : String}

/-- What a registry reads does not change with other names. -/
theorem Within.valueOf_eq {P : String → Prop} (h : Within P w w') (hname : ¬ P name)
    (hhome : r'.home = r.home) (haliases : r'.aliases = r.aliases) :
    w'.valueOf r' name = w.valueOf r name := by
  have hread : (fun s => w'.read s name) = fun s => w.read s name :=
    funext fun s => h.read s hname
  unfold valueOf readFirst
  rw [hhome, haliases, h.own _ _ hname, hread]

/-- **A registry reads the object that it has put** under a name, if it read anything there. -/
theorem valueOf_install {value : Object} (hbound : (w.valueOf r name).isSome)
    (hinstall : w.install r name value = (w', none)) :
    w'.valueOf r name = some (.held value) := by
  refine valueOf_of_given (received_of_install hinstall).1 rfl (fun _ => Iff.rfl) (fun hsome => ?_)
    (fun hown s => receives_of_not_own hown) hbound
  obtain ⟨p, hp⟩ := Option.isSome_iff_exists.mp hsome
  exact receives_home hp

/-- **What a registry reads after a row of replacements** is the object that was put in place. -/
theorem Writes.valueOf_eq {t : Table Object} {o : Object} (h : Writes r t none w w')
    (hnodup : t.names.Nodup) (hmem : (name, o) ∈ t) (hbound : (w.valueOf r name).isSome) :
    w'.valueOf r name = some (.held o) := by
  generalize hnone : none = obstacle? at h
  induction h with
  | quiet => exact absurd hmem List.not_mem_nil
  | @next w w₀ w₁ w' k value rest obstacle? hbefore hinstall hrest ih =>
      obtain ⟨hk, hnodup⟩ := List.nodup_cons.mp hnodup
      have hbound₀ : (w₀.valueOf r name).isSome := by
        rw [hbefore.valueOf_eq not_false rfl rfl]
        exact hbound
      rcases List.mem_cons.mp hmem with heq | hlater
      · -- The name is written first, and the rest of the row does not come back to it.
        obtain ⟨rfl, rfl⟩ := Prod.mk.inj heq
        rw [hrest.within.valueOf_eq hk rfl rfl]
        exact valueOf_install hbound₀ hinstall
      · have hne : name ≠ k := by
          rintro rfl
          exact hk (List.mem_map.mpr ⟨_, hlater, rfl⟩)
        refine ih hnodup hlater ?_ hnone
        rw [(within_of_install hinstall).valueOf_eq hne rfl rfl]
        exact hbound₀
  | blocked => cases hnone

/-- **Restoring all names puts the oldest saved object in place**, if the registry reads anything
under the name. -/
theorem valueOf_restoreAll {id : RegistryId} {o : Object}
    (hok : isBlocked (w.restoreAll id) = false) (hname : name ∈ (w.registry id).mutables)
    (hbound : (w.valueOf (w.registry id) name).isSome)
    (hlast : ((w.registry id).savedOf name).getLast? = some o) :
    (w.restoreAll id).1.valueOf ((w.restoreAll id).1.registry id) name = some (.held o) := by
  obtain ⟨t, obstacle?, hwrites, holdest, hblocked⟩ :=
    restoreEach_writes id (w.registry id).mutables w
  obtain rfl := eq_none_of_accepted hblocked hok
  have hread := hwrites.valueOf_eq holdest.nodup (holdest.all rfl name hname o hlast) hbound
  obtain ⟨⟨saved, hrecord⟩, -⟩ := (restoreEach_effect id (w.registry id).mutables w).record
  unfold restoreAll
  rw [hrecord]
  exact hread

/-- Restoring a name gives the newest saved object, unless something is in the way. -/
theorem restore_answer {id : RegistryId} (hok : isBlocked (w.restore id name) = false) :
    (w.restore id name).2 =
      match (w.registry id).savedOf name with
      | [] => .error (.registry (.noRestorationPoint name))
      | o :: _ => .ok o := by
  obtain ⟨hstack, hrestore⟩ | ⟨o, rest, w', obstacle?, hstack, -, hrestore⟩ :=
    restore_cases w id name
  all_goals rw [hrestore] at hok ⊢; rw [hstack]
  cases obstacle? with
  | some obstacle => cases hok
  | none => rfl

end Restoring

/-- **The record of a registry tells its history.**  A registry has replaced and saved nothing under
a name.  Then it performs any operations, with nothing in the way of a write, and in between code of
the modules changes spaces and the table of modules and other registries perform operations, as they
like.  At the end an object is recorded as replaced under the name exactly if it is what was read
when the name was mocked, and the name was not unmocked since; and the saved objects are those of
the savings that no restoring has met.  Restoring the name gives the newest of them.  Restoring all
names, if it is one of these, puts the oldest in place where the registry reads the name.  Mocking,
unmocking and resetting change nothing that is saved; saving and restoring change nothing that is
recorded as replaced. -/
theorem record_eq_history (w : World) (id : RegistryId) (actions : List Action) (name : String)
    (hreplaced : (w.registry id).replaced.get? name = none)
    (hsaved : (w.registry id).savedOf name = [])
    (hok : ∀ k (hk : k < actions.length),
      (actAll (actions.take k) w).blocks id actions[k] = false) :
    let w' := actAll actions w
    let r := w'.registry id
    let past := history id name actions w
    (∀ p, r.replaced.get? name = some p ↔ ∃ before after,
        past = before ++ .mocked p :: after ∧ ∀ deed ∈ after, deed.record? = none) ∧
      r.savedOf name = Deed.stack past ∧
      (isBlocked (w'.restore id name) = false →
        (w'.restore id name).2 = match Deed.stack past with
          | [] => .error (.registry (.noRestorationPoint name))
          | o :: _ => .ok o) ∧
      (isBlocked (w'.restoreAll id) = false → name ∈ r.mutables → (w'.valueOf r name).isSome →
        ∀ o, (Deed.stack past).getLast? = some o →
          (w'.restoreAll id).1.valueOf ((w'.restoreAll id).1.registry id) name =
            some (.held o)) ∧
      ∀ op : Operation,
        (op.isMocking = true →
          ((w'.perform id op).1.registry id).savedOf name = r.savedOf name) ∧
        (op.isSaving = true → ((w'.perform id op).1.registry id).replaced = r.replaced) := by
  intro w' r past
  -- Both records of the name are kept in one book, which the history fills from an empty one.
  have hstart : (w.registry id).books name = ⟨none, []⟩ := by
    unfold Registry.books
    rw [hreplaced, hsaved]
  have hbooks : r.books name = ⟨Deed.original? past, Deed.stack past⟩ := by
    rw [← Books.foldl_enter, ← hstart]
    exact books_actAll actions w hok
  have horiginal : r.replaced.get? name = Deed.original? past := congrArg Books.original hbooks
  have hstack : r.savedOf name = Deed.stack past := congrArg Books.stack hbooks
  refine ⟨fun p => ?_, hstack, fun hrestore => ?_, fun hrestore hname hbound o ho => ?_,
    fun op => ?_⟩
  · rw [horiginal]
    exact Deed.original?_eq_some_iff past p
  · rw [← hstack]
    exact restore_answer hrestore
  · rw [← hstack] at ho
    exact valueOf_restoreAll hrestore hname hbound ho
  · have hrecord := (perform_effect w' id op).record
    exact ⟨fun hop => hrecord.savedOf_of_isMocking hop name, hrecord.replaced_of_isSaving⟩

/-- The function is saved, something else is put in its place and mocked, the stand-in is saved with
all names and restored: what was put in is recorded, and the function is still saved. -/
theorem record_eq_history_birdhouse :
    let other : Object := .item 8 .plain
    let w' := actAll [.operate 0 (.save "fetch"), .put 0 "fetch" other,
      .operate 0 (.mock "fetch" none), .operate 0 (.mock "fetch" none), .operate 0 .saveAll,
      .drop 0 "helper", .operate 1 .unmockAll, .operate 0 (.restore "fetch")] birdhouse
    (w'.registry 0).replaced.get? "fetch" = some other ∧
      (w'.registry 0).savedOf "fetch" = [fetch] ∧ (w'.restore 0 "fetch").2 = .ok fetch ∧
      (w'.restoreAll 0).1.valueOf ((w'.restoreAll 0).1.registry 0) "fetch" =
        some (.held fetch) := by
  intro other
  obtain ⟨horiginal, hstack, hrestore, hrestoreAll, -⟩ := record_eq_history birdhouse 0
    [.operate 0 (.save "fetch"), .put 0 "fetch" other,
      .operate 0 (.mock "fetch" none), .operate 0 (.mock "fetch" none), .operate 0 .saveAll,
      .drop 0 "helper", .operate 1 .unmockAll, .operate 0 (.restore "fetch")] "fetch" rfl rfl
    (by decide +kernel)
  have hpast : history 0 "fetch" [.operate 0 (.save "fetch"), .put 0 "fetch" other,
      .operate 0 (.mock "fetch" none), .operate 0 (.mock "fetch" none), .operate 0 .saveAll,
      .drop 0 "helper", .operate 1 .unmockAll, .operate 0 (.restore "fetch")] birdhouse =
        [.saved fetch, .mocked other, .saved (.item 4 .resettable), .restored] := by
    decide +kernel
  rw [hpast] at horiginal hstack hrestore hrestoreAll
  refine ⟨(horiginal other).mpr ⟨[.saved fetch], _, rfl, by decide⟩, hstack,
    hrestore (by decide +kernel), ?_⟩
  exact hrestoreAll (by decide +kernel) (by decide +kernel) (by decide +kernel) fetch rfl

end World

end Standin
