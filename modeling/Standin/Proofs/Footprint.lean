/-
What an operation of a registry can do to a world.

An operation puts objects only under the names it `writes`, reaches no record but the
registry's own, and changes that in one of a few ways: `RecordStep` lists them, an
entry for each operation.  This is proved once, whatever comes of the operation, a
replacement that ends half-way included (`perform_effect`); all that is said elsewhere of what
operations leave alone is read off it.  What an operation on a single name can come to
is said before that (`mock_cases`, `unmock_cases`, `save_cases`, `restore_cases`), and so is
what one on all names comes to (`unmockAll_cases`, `restoreEach_cases`).  What every
operation of a run leaves alone, the run leaves alone (`performAll_confined`), and in
every world that a run leads to a registry records a name once (`nodup_replaced_actAll`).
-/
import Standin.Proofs.Writing

set_option autoImplicit false

namespace Standin

namespace Operation

/-- The names that an operation of a registry may put an object under. -/
def writes (r : Registry) : Operation → List String
  | .mock name _ | .unmock name | .restore name => [name]
  | .unmockAll => r.replaced.names
  | .restoreAll => r.mutables
  | .reset _ | .resetAll | .save _ | .saveAll | .addAlias _ => []

/-- The names that an operation may write or change what is saved under. -/
def touches (r : Registry) : Operation → List String
  | .mock name _ | .unmock name | .save name | .restore name => [name]
  | .unmockAll => r.replaced.names
  | .saveAll | .restoreAll => r.mutables
  | .reset _ | .resetAll | .addAlias _ => []

/-- The space that an operation adds to those kept in step. -/
def alias? : Operation → Option SpaceId
  | .addAlias s => some s
  | _ => none

/-- Only undoing all replacements depends on what was replaced. -/
theorem writes_congr {r r' : Registry} (h : r'.mutables = r.mutables) {op : Operation}
    (hop : op ≠ .unmockAll) : op.writes r' = op.writes r := by
  cases op with
  | unmockAll => exact absurd rfl hop
  | restoreAll => exact h
  | _ => rfl

theorem mem_touches_of_mem_writes {r : Registry} {op : Operation} {name : String}
    (h : name ∈ op.writes r) : name ∈ op.touches r := by
  cases op with
  | mock | unmock | restore | unmockAll | restoreAll => exact h
  | _ => exact absurd h List.not_mem_nil

end Operation

/-! ## What can become of a record -/

namespace Registry

/-- The registry with an object recorded as replaced under a name. -/
def putReplaced (r : Registry) (name : String) (previous : Object) : Registry :=
  { r with replaced := r.replaced.put name previous }

/-- The registry with nothing recorded under a name. -/
def dropReplaced (r : Registry) (name : String) : Registry :=
  { r with replaced := r.replaced.drop name }

/-- `r'` is `r` except for what is saved under some names. -/
def Resaved (names : List String) (r r' : Registry) : Prop :=
  (∃ saved, r' = { r with saved := saved }) ∧
    ∀ name, name ∉ names → r'.savedOf name = r.savedOf name

namespace Resaved

variable {names names' : List String} {r r' r'' : Registry}

theorem refl (names : List String) (r : Registry) : Resaved names r r :=
  ⟨⟨r.saved, rfl⟩, fun _ _ => rfl⟩

theorem trans (h : Resaved names r r') (h' : Resaved names r' r'') : Resaved names r r'' := by
  obtain ⟨⟨saved, rfl⟩, hother⟩ := h
  obtain ⟨⟨saved', rfl⟩, hother'⟩ := h'
  exact ⟨⟨saved', rfl⟩, fun name hname => (hother' name hname).trans (hother name hname)⟩

theorem mono (hnames : ∀ name ∈ names, name ∈ names') (h : Resaved names r r') :
    Resaved names' r r' :=
  ⟨h.1, fun name hname => h.2 name fun hc => hname (hnames name hc)⟩

theorem putSaved (r : Registry) (name : String) (stack : List Object) :
    Resaved [name] r (r.putSaved name stack) := by
  refine ⟨⟨_, rfl⟩, fun other hother => ?_⟩
  rw [savedOf_putSaved, if_neg fun h => hother (List.mem_singleton.mpr h)]

end Resaved

end Registry

/-- What an operation can make of the record of its registry. -/
inductive RecordStep : Operation → Registry → Registry → Prop where
  /-- It may fail, or find nothing to do. -/
  | same (op : Operation) (r : Registry) : RecordStep op r r
  | mock (name : String) (standIn : Option Object) (p : Object) (r : Registry) :
    RecordStep (.mock name standIn) r (r.putReplaced name p)
  | unmock (name : String) (r : Registry) : RecordStep (.unmock name) r (r.dropReplaced name)
  | unmockAll (r : Registry) : RecordStep .unmockAll r { r with replaced := [] }
  | save (name : String) (o : Object) (r : Registry) :
    RecordStep (.save name) r (r.putSaved name (o :: r.savedOf name))
  | restore (name : String) (o : Object) (rest : List Object) (r : Registry)
    (h : r.savedOf name = o :: rest) : RecordStep (.restore name) r (r.putSaved name rest)
  | saveAll (r r' : Registry) (h : r.Resaved r.mutables r') : RecordStep .saveAll r r'
  | restoreAll (r r' : Registry) (h : r.Resaved r.mutables r') : RecordStep .restoreAll r r'
  | addAlias (s : SpaceId) (r : Registry) : RecordStep (.addAlias s) r (r.addAlias s)

namespace World

/-- `w'` is `w` except for what spaces hold under the names of which `P` holds, and for the record
of the registry `id`, which has changed as `R` says. -/
structure Effect (id : RegistryId) (P : String → Prop) (R : Registry → Registry → Prop)
    (w w' : World) : Prop extends Within P w w' where
  others : ∀ j, j ≠ id → w'.registry j = w.registry j
  record : R (w.registry id) (w'.registry id)

namespace Effect

variable {id : RegistryId} {P Q : String → Prop} {R S : Registry → Registry → Prop}
  {w w' w'' : World}

/-- A change that leaves every registry alone. -/
theorem of_within (h : Within P w w') (hregistry : w'.registry = w.registry)
    (hR : R (w.registry id) (w.registry id)) : Effect id P R w w' := by
  refine ⟨h, fun j _ => ?_, ?_⟩ <;> rw [hregistry]
  exact hR

/-- A change of the registry's record alone. -/
theorem setRegistry (P : String → Prop) (w : World) {r : Registry} (hR : R (w.registry id) r) :
    Effect id P R w (w.setRegistry id r) := by
  refine ⟨.of_space_eq P rfl rfl, fun j hj => ?_, ?_⟩ <;> rw [registry_setRegistry]
  · rw [if_neg hj]
  · rw [if_pos rfl]
    exact hR

theorem trans {T : Registry → Registry → Prop} (h : Effect id P R w w')
    (hRS : ∀ r r' r'', R r r' → S r' r'' → T r r'') (h' : Effect id P S w' w'') :
    Effect id P T w w'' where
  toWithin := h.toWithin.trans h'.toWithin
  others j hj := (h'.others j hj).trans (h.others j hj)
  record := hRS _ _ _ h.record h'.record

/-- An effect after a change that left every registry alone. -/
theorem after (h : Within P w w') (hregistry : w'.registry = w.registry)
    (h' : Effect id P R w' w'') : Effect id P R w w'' where
  toWithin := h.trans h'.toWithin
  others j hj := (h'.others j hj).trans (congrFun hregistry j)
  record := hregistry ▸ h'.record

/-- An effect before such a change. -/
theorem before (h : Effect id P R w w') (h' : Within P w' w'')
    (hregistry : w''.registry = w'.registry) : Effect id P R w w'' where
  toWithin := h.toWithin.trans h'
  others j hj := (congrFun hregistry j).trans (h.others j hj)
  record := hregistry.symm ▸ h.record

theorem mono (hPQ : ∀ name, P name → Q name) (hRS : ∀ r r', R r r' → S r r')
    (h : Effect id P R w w') : Effect id Q S w w' :=
  { h with toWithin := h.toWithin.mono hPQ, record := hRS _ _ h.record }

end Effect

/-! ## The single operations -/

/-- Getting an object to read changes no space and no registry. -/
theorem take_within (P : String → Prop) (w : World) (sight : Sight) :
    Within P w (w.take sight).2 ∧ (w.take sight).2.registry = w.registry := by
  cases sight <;> exact ⟨.of_space_eq P rfl rfl, rfl⟩

/-- Nor does getting a stand-in. -/
theorem standInFor_within (P : String → Prop) (w : World) (factory : Factory)
    (standIn : Option Object) :
    Within P w (w.standInFor factory standIn).1 ∧
      (w.standInFor factory standIn).1.registry = w.registry := by
  cases standIn with
  | some o => exact ⟨.refl P w, rfl⟩
  | none => cases factory <;> exact ⟨.of_space_eq P rfl rfl, rfl⟩

theorem within_of_standInFor {w w₀ : World} {factory : Factory} {standIn : Option Object}
    {outcome : Except Failure Object} (h : w.standInFor factory standIn = (w₀, outcome)) :
    Within (fun _ => False) w w₀ ∧ w₀.registry = w.registry := by
  have hwithin := standInFor_within (fun _ => False) w factory standIn
  rw [h] at hwithin
  exact hwithin

/-- The object that a registry gets when it reads a name. -/
def reading (w : World) (r : Registry) (name : String) : Option Object :=
  (w.valueOf r name).map fun sight => (w.take sight).1

theorem reading_of_valueOf {w : World} {r : Registry} {name : String} {sight : Sight}
    (h : w.valueOf r name = some sight) : w.reading r name = some (w.take sight).1 := by
  unfold reading
  rw [h]
  rfl

/-- **What mocking a name comes to**: it fails before anything is recorded, or the object that is
read is recorded and the name is replaced. -/
theorem mock_cases (w : World) (id : RegistryId) (name : String) (standIn : Option Object) :
    ∃ w₀, Within (fun _ => False) w w₀ ∧ w₀.registry = w.registry ∧
      ((∃ e, w.mock id name standIn = (w₀, .error e)) ∨
        ∃ p o w' obstacle?, w.reading (w.registry id) name = some p ∧
          (w₀.setRegistry id ((w.registry id).putReplaced name p)).install
            ((w.registry id).putReplaced name p) name o = (w', obstacle?) ∧
          w.mock id name standIn = (w', match obstacle? with
            | some obstacle => .error (.blocked obstacle)
            | none => .ok o)) := by
  unfold mock
  dsimp only
  split
  · exact ⟨w, .refl _ w, rfl, .inl ⟨_, rfl⟩⟩
  · split
    · exact ⟨w, .refl _ w, rfl, .inl ⟨_, rfl⟩⟩
    · rename_i sight hvalue
      -- What is read may be made for the purpose, and so may the stand-in; neither touches a space
      -- or a record.
      have hreading := reading_of_valueOf hvalue
      obtain ⟨htaken, hregistry₁⟩ := take_within (fun _ => False) w sight
      generalize w.take sight = taken at hreading htaken hregistry₁
      obtain ⟨p, w₁⟩ := taken
      obtain ⟨hmade, hregistry₂⟩ :=
        standInFor_within (fun _ => False) w₁ (w.registry id).factory standIn
      dsimp only at hreading htaken hregistry₁ ⊢
      generalize w₁.standInFor (w.registry id).factory standIn = made at hmade hregistry₂ ⊢
      obtain ⟨w₂, e | o⟩ := made
      · exact ⟨w₂, htaken.trans hmade, hregistry₂.trans hregistry₁, .inl ⟨e, rfl⟩⟩
      · cases hinstall : (w₂.setRegistry id ((w.registry id).putReplaced name p)).install
            ((w.registry id).putReplaced name p) name o with
        | mk w' obstacle? =>
            refine ⟨w₂, htaken.trans hmade, hregistry₂.trans hregistry₁, .inr ⟨p, o, w', obstacle?,
              hreading, hinstall, ?_⟩⟩
            unfold Registry.putReplaced at hinstall
            simp only [hinstall]
            cases obstacle? <;> rfl

theorem mock_effect (w : World) (id : RegistryId) (name : String) (standIn : Option Object) :
    Effect id (· = name) (RecordStep (.mock name standIn)) w (w.mock id name standIn).1 := by
  obtain ⟨w₀, hbefore, hregistry, ⟨e, hmock⟩ | ⟨p, o, w', obstacle?, -, hinstall, hmock⟩⟩ :=
    mock_cases w id name standIn
  all_goals
    rw [hmock]
    replace hbefore : Within (· = name) w w₀ := hbefore.mono fun _ hfalse => hfalse.elim
  · exact .of_within hbefore hregistry (.same _ _)
  · have hrecord : Effect id (· = name) (RecordStep (.mock name standIn)) w₀
        (w₀.setRegistry id ((w.registry id).putReplaced name p)) := by
      apply Effect.setRegistry
      rw [hregistry]
      exact .mock name standIn p _
    obtain ⟨hwithin, hregistry'⟩ := install_within
      (w₀.setRegistry id ((w.registry id).putReplaced name p))
      ((w.registry id).putReplaced name p) name o
    rw [hinstall] at hwithin hregistry'
    exact .after hbefore hregistry (hrecord.before hwithin hregistry')

/-- **What unmocking a name comes to**: there is nothing recorded for it, or the recorded object is
put back, and then the record is cleared. -/
theorem unmock_cases (w : World) (id : RegistryId) (name : String) :
    (w.registry id).replaced.get? name = none ∧
        w.unmock id name = (w, .error (.registry (.notMocked name "unmocked"))) ∨
      ∃ p w' obstacle?, (w.registry id).replaced.get? name = some p ∧
        w.install (w.registry id) name p = (w', obstacle?) ∧
        w.unmock id name = match obstacle? with
          | some obstacle => (w', .error (.blocked obstacle))
          | none => (w'.setRegistry id ((w.registry id).dropReplaced name), .ok p) := by
  unfold unmock
  dsimp only
  cases hmocked : (w.registry id).replaced.get? name with
  | none => exact .inl ⟨rfl, rfl⟩
  | some p =>
      cases hinstall : w.install (w.registry id) name p with
      | mk w' obstacle? =>
          refine .inr ⟨p, w', obstacle?, rfl, hinstall, ?_⟩
          simp only [hinstall]
          cases obstacle? <;> rfl

theorem unmock_effect (w : World) (id : RegistryId) (name : String) :
    Effect id (· = name) (RecordStep (.unmock name)) w (w.unmock id name).1 := by
  obtain ⟨-, hunmock⟩ | ⟨p, w', obstacle?, -, hinstall, hunmock⟩ := unmock_cases w id name
  all_goals rw [hunmock]
  · exact .of_within (.refl _ w) rfl (.same _ _)
  · obtain ⟨hwithin, hregistry⟩ := install_within w (w.registry id) name p
    rw [hinstall] at hwithin hregistry
    -- The record is cleared last, so that an obstacle leaves it as it was.
    cases obstacle? with
    | some obstacle => exact .of_within hwithin hregistry (.same _ _)
    | none =>
        refine .after hwithin hregistry (.setRegistry _ w' ?_)
        rw [show w'.registry id = w.registry id from congrFun hregistry id]
        exact .unmock name _

/-- Replacing one name after another stays within the names of the table. -/
theorem installAll_within (r : Registry) (table : Table Object) (w : World) :
    Within (· ∈ table.names) w (installAll r table w).1 ∧
      (installAll r table w).1.registry = w.registry := by
  induction table generalizing w with
  | nil => exact ⟨.refl _ w, rfl⟩
  | cons entry rest ih =>
      obtain ⟨name, value⟩ := entry
      obtain ⟨hwithin, hregistry⟩ := install_within w r name value
      have hhead : ∀ other, other = name → other ∈ Table.names ((name, value) :: rest) :=
        fun other h => h ▸ List.mem_cons_self
      have htail : ∀ other, other ∈ Table.names rest →
          other ∈ Table.names ((name, value) :: rest) :=
        fun other h => List.mem_cons_of_mem _ h
      rw [installAll]
      generalize w.install r name value = result at hwithin hregistry ⊢
      -- The first name is written in any case; the rest only if nothing was in the way.
      obtain ⟨w', _ | obstacle⟩ := result
      · exact ⟨(hwithin.mono hhead).trans ((ih w').1.mono htail), (ih w').2.trans hregistry⟩
      · exact ⟨hwithin.mono hhead, hregistry⟩

/-- **What undoing all replacements comes to**: the recorded objects are put back, and then, unless
something was in the way, the record is cleared. -/
theorem unmockAll_cases (w : World) (id : RegistryId) :
    (∃ w' obstacle, installAll (w.registry id) (w.registry id).replaced w = (w', some obstacle) ∧
        w.unmockAll id = (w', .error (.blocked obstacle))) ∨
      ∃ w', installAll (w.registry id) (w.registry id).replaced w = (w', none) ∧
        w.unmockAll id = (w'.setRegistry id { w.registry id with replaced := [] }, .ok ()) := by
  unfold unmockAll
  dsimp only
  cases installAll (w.registry id) (w.registry id).replaced w with
  | mk w' obstacle? =>
      cases obstacle? with
      | some obstacle => exact .inl ⟨w', obstacle, rfl, rfl⟩
      | none => exact .inr ⟨w', rfl, rfl⟩

theorem unmockAll_effect (w : World) (id : RegistryId) :
    Effect id (· ∈ (w.registry id).replaced.names) (RecordStep .unmockAll) w
      (w.unmockAll id).1 := by
  obtain ⟨hwithin, hregistry⟩ := installAll_within (w.registry id) (w.registry id).replaced w
  obtain ⟨w', obstacle, hinstall, hunmock⟩ | ⟨w', hinstall, hunmock⟩ := unmockAll_cases w id
  all_goals
    rw [hinstall] at hwithin hregistry
    rw [hunmock]
  · exact .of_within hwithin hregistry (.same _ _)
  · refine .after hwithin hregistry (.setRegistry _ w' ?_)
    rw [show w'.registry id = w.registry id from congrFun hregistry id]
    exact .unmockAll _

/-- Undoing all replacements, when it succeeds, clears the registry's own record of them, and
changes no other record. -/
theorem registry_unmockAll {w : World} {id : RegistryId} (hok : (w.unmockAll id).2 = .ok ()) :
    (w.unmockAll id).1.registry =
      (w.setRegistry id { w.registry id with replaced := [] }).registry := by
  have hregistry := (installAll_within (w.registry id) (w.registry id).replaced w).2
  obtain ⟨w', obstacle, hinstall, hunmock⟩ | ⟨w', hinstall, hunmock⟩ := unmockAll_cases w id
  · rw [hunmock] at hok
    cases hok
  · rw [hinstall] at hregistry
    rw [hunmock]
    funext i
    rw [registry_setRegistry, registry_setRegistry, show w'.registry i = w.registry i from
      congrFun hregistry i]

/-- Resetting changes no space and no registry. -/
theorem resetValue_within (P : String → Prop) (w : World) (r : Registry) (name : String) :
    Within P w (w.resetValue r name).1 ∧ (w.resetValue r name).1.registry = w.registry := by
  unfold resetValue
  split
  · exact ⟨.refl P w, rfl⟩
  · exact ⟨.refl P w, rfl⟩
  · unfold resetObject
    split <;> exact ⟨.of_space_eq P rfl rfl, rfl⟩

theorem resetEach_within (P : String → Prop) (r : Registry) (names : List String) (w : World) :
    Within P w (resetEach r names w).1 ∧ (resetEach r names w).1.registry = w.registry := by
  induction names generalizing w with
  | nil => exact ⟨.refl P w, rfl⟩
  | cons name rest ih =>
      obtain ⟨hwithin, hregistry⟩ := resetValue_within P w r name
      rw [resetEach]
      generalize w.resetValue r name = result at hwithin hregistry ⊢
      obtain ⟨w', e | _⟩ := result
      · exact ⟨hwithin, hregistry⟩
      · exact ⟨hwithin.trans (ih w').1, (ih w').2.trans hregistry⟩

theorem reset_within (P : String → Prop) (w : World) (id : RegistryId) (name : String) :
    Within P w (w.reset id name).1 ∧ (w.reset id name).1.registry = w.registry := by
  unfold reset
  dsimp only
  split
  · exact resetValue_within P w _ name
  · exact ⟨.refl P w, rfl⟩

/-- **What saving a name comes to**: the registry does not see it, or the object that is read is put
on top of what is saved. -/
theorem save_cases (w : World) (id : RegistryId) (name : String) :
    w.valueOf (w.registry id) name = none ∧
        w.save id name = (w, .error (.registry (w.unbound (w.registry id) name))) ∨
      ∃ sight, w.valueOf (w.registry id) name = some sight ∧
        w.save id name = ((w.take sight).2.setRegistry id ((w.registry id).putSaved name
          ((w.take sight).1 :: (w.registry id).savedOf name)), .ok (w.take sight).1) := by
  unfold save
  dsimp only
  cases w.valueOf (w.registry id) name with
  | none => exact .inl ⟨rfl, rfl⟩
  | some sight => exact .inr ⟨sight, rfl, rfl⟩

theorem save_effect (P : String → Prop) (w : World) (id : RegistryId) (name : String) :
    Effect id P (RecordStep (.save name)) w (w.save id name).1 := by
  obtain ⟨-, hsave⟩ | ⟨sight, -, hsave⟩ := save_cases w id name
  all_goals rw [hsave]
  · exact .of_within (.refl P w) rfl (.same _ _)
  · obtain ⟨hwithin, hregistry⟩ := take_within P w sight
    refine .after hwithin hregistry (.setRegistry P _ ?_)
    rw [show (w.take sight).2.registry id = w.registry id from congrFun hregistry id]
    exact .save name _ _

/-- Saving a name changes what is saved under it. -/
theorem resaved_of_save {name : String} {r r' : Registry} (h : RecordStep (.save name) r r') :
    r.Resaved [name] r' := by
  cases h with
  | same => exact .refl _ r
  | save o => exact .putSaved r name _

theorem saveEach_effect (P : String → Prop) (id : RegistryId) (names : List String) (w : World) :
    Effect id P (Registry.Resaved names) w (saveEach id names w) := by
  induction names generalizing w with
  | nil => exact .of_within (.refl P w) rfl (.refl _ _)
  | cons name rest ih =>
      refine (save_effect P w id name).trans (fun r r' r'' h h' => ?_) (ih _)
      have hhead : r.Resaved (name :: rest) r' :=
        (resaved_of_save h).mono fun _ hn => List.mem_singleton.mp hn ▸ List.mem_cons_self
      exact hhead.trans (h'.mono fun _ hn => List.mem_cons_of_mem name hn)

/-- **What restoring a name comes to**: nothing is saved for it, or the newest saved object is taken
off and then put back. -/
theorem restore_cases (w : World) (id : RegistryId) (name : String) :
    (w.registry id).savedOf name = [] ∧
        w.restore id name = (w, .error (.registry (.noRestorationPoint name))) ∨
      ∃ o rest w' obstacle?, (w.registry id).savedOf name = o :: rest ∧
        (w.setRegistry id ((w.registry id).putSaved name rest)).install
          ((w.registry id).putSaved name rest) name o = (w', obstacle?) ∧
        w.restore id name = (w', match obstacle? with
          | some obstacle => .error (.blocked obstacle)
          | none => .ok o) := by
  unfold restore
  dsimp only
  cases hstack : (w.registry id).savedOf name with
  | nil => exact .inl ⟨rfl, rfl⟩
  | cons o rest =>
      dsimp only
      cases hinstall : (w.setRegistry id ((w.registry id).putSaved name rest)).install
          ((w.registry id).putSaved name rest) name o with
      | mk w' obstacle? =>
          refine .inr ⟨o, rest, w', obstacle?, rfl, hinstall, ?_⟩
          cases obstacle? <;> rfl

theorem restore_of_saved {w : World} {id : RegistryId} {name : String} {o : Object}
    {older : List Object} (hsaved : (w.registry id).savedOf name = o :: older) :
    ∃ w' obstacle?, (w.setRegistry id ((w.registry id).putSaved name older)).install
        ((w.registry id).putSaved name older) name o = (w', obstacle?) ∧
      w.restore id name = (w', match obstacle? with
        | some obstacle => .error (.blocked obstacle)
        | none => .ok o) := by
  obtain ⟨hnone, -⟩ | ⟨o', older', w', obstacle?, hsaved', hinstall, hrestore⟩ :=
    restore_cases w id name
  · exact absurd (hsaved.symm.trans hnone) (List.cons_ne_nil o older)
  · obtain ⟨rfl, rfl⟩ := List.cons.inj (hsaved.symm.trans hsaved')
    exact ⟨w', obstacle?, hinstall, hrestore⟩

theorem restore_effect (w : World) (id : RegistryId) (name : String) :
    Effect id (· = name) (RecordStep (.restore name)) w (w.restore id name).1 := by
  obtain ⟨-, hrestore⟩ | ⟨o, rest, w', obstacle?, hstack, hinstall, hrestore⟩ :=
    restore_cases w id name
  all_goals rw [hrestore]
  · exact .of_within (.refl _ w) rfl (.same _ _)
  · have hrecord : Effect id (· = name) (RecordStep (.restore name)) w
        (w.setRegistry id ((w.registry id).putSaved name rest)) :=
      .setRegistry _ w (.restore name o rest _ hstack)
    obtain ⟨hwithin, hregistry⟩ := install_within
      (w.setRegistry id ((w.registry id).putSaved name rest))
      ((w.registry id).putSaved name rest) name o
    rw [hinstall] at hwithin hregistry
    exact hrecord.before hwithin hregistry

/-- **What restoring the first name of a list comes to**: nothing is saved for it and it is passed
by, the oldest saved object does not get everywhere and the rest is left, or the rest follows with
nothing saved for the name any more. -/
theorem restoreEach_cases (w : World) (id : RegistryId) (name : String) (rest : List String) :
    (w.registry id).savedOf name = [] ∧ restoreEach id (name :: rest) w = restoreEach id rest w ∨
      (∃ oldest w' obstacle, ((w.registry id).savedOf name).getLast? = some oldest ∧
        w.install (w.registry id) name oldest = (w', some obstacle) ∧
        restoreEach id (name :: rest) w = (w', .error (.blocked obstacle))) ∨
      ∃ oldest w', ((w.registry id).savedOf name).getLast? = some oldest ∧
        w.install (w.registry id) name oldest = (w', none) ∧
        restoreEach id (name :: rest) w =
          restoreEach id rest (w'.setRegistry id ((w.registry id).putSaved name [])) := by
  rw [restoreEach]
  cases hlast : ((w.registry id).savedOf name).getLast? with
  | none => exact .inl ⟨List.getLast?_eq_none_iff.mp hlast, rfl⟩
  | some oldest =>
      dsimp only
      cases hinstall : w.install (w.registry id) name oldest with
      | mk w' obstacle? =>
          cases obstacle? with
          | some obstacle => exact .inr (.inl ⟨oldest, w', obstacle, rfl, hinstall, rfl⟩)
          | none => exact .inr (.inr ⟨oldest, w', rfl, hinstall, rfl⟩)

theorem restoreEach_effect (id : RegistryId) (names : List String) (w : World) :
    Effect id (· ∈ names) (Registry.Resaved names) w (restoreEach id names w).1 := by
  induction names generalizing w with
  | nil => exact .of_within (.refl _ w) rfl (.refl _ _)
  | cons name rest ih =>
      -- Whatever world the rest starts from, it stays within the rest of the names.
      have htail : ∀ w₁, Effect id (· ∈ name :: rest) (Registry.Resaved (name :: rest)) w₁
          (restoreEach id rest w₁).1 := fun w₁ =>
        (ih w₁).mono (fun _ h => List.mem_cons_of_mem name h) fun _ _ h =>
          h.mono fun _ h => List.mem_cons_of_mem name h
      have hhead : ∀ other, other = name → other ∈ name :: rest :=
        fun other h => List.mem_cons.mpr (.inl h)
      obtain ⟨-, hstep⟩ | ⟨oldest, w', obstacle, -, hinstall, hstep⟩ |
        ⟨oldest, w', -, hinstall, hstep⟩ := restoreEach_cases w id name rest
      all_goals rw [hstep]
      · exact htail w
      all_goals
        obtain ⟨hwithin, hregistry⟩ := install_within w (w.registry id) name oldest
        rw [hinstall] at hwithin hregistry
      · exact .of_within (hwithin.mono hhead) hregistry (.refl _ _)
      · have hrecord : Effect id (· ∈ name :: rest) (Registry.Resaved (name :: rest)) w'
            (w'.setRegistry id ((w.registry id).putSaved name [])) := by
          apply Effect.setRegistry
          rw [show w'.registry id = w.registry id from congrFun hregistry id]
          exact (Registry.Resaved.putSaved _ name []).mono fun _ h =>
            List.mem_singleton.mp h ▸ List.mem_cons_self
        exact .after (hwithin.mono hhead) hregistry
          (hrecord.trans (fun _ _ _ => Registry.Resaved.trans) (htail _))

/-! ## Operations and runs -/

/-- **What an operation can do**, whatever comes of it. -/
theorem perform_effect (w : World) (id : RegistryId) (op : Operation) :
    Effect id (· ∈ op.writes (w.registry id)) (RecordStep op) w (w.perform id op).1 := by
  have hone : ∀ (name other : String), other = name → other ∈ [name] :=
    fun name other h => List.mem_singleton.mpr h
  cases op with
  | mock name standIn => exact (mock_effect w id name standIn).mono (hone name) fun _ _ h => h
  | unmock name => exact (unmock_effect w id name).mono (hone name) fun _ _ h => h
  | unmockAll => exact unmockAll_effect w id
  | reset name =>
      obtain ⟨hwithin, hregistry⟩ := reset_within (· ∈ []) w id name
      exact .of_within hwithin hregistry (.same _ _)
  | resetAll =>
      obtain ⟨hwithin, hregistry⟩ := resetEach_within (· ∈ []) (w.registry id)
        (w.registry id).replaced.names w
      exact .of_within hwithin hregistry (.same _ _)
  | save name => exact save_effect _ w id name
  | restore name => exact (restore_effect w id name).mono (hone name) fun _ _ h => h
  | saveAll =>
      have h := saveEach_effect (· ∈ []) id (w.registry id).mutables w
      exact { h with record := .saveAll _ _ h.record }
  | restoreAll =>
      have h := restoreEach_effect id (w.registry id).mutables w
      exact { h with record := .restoreAll _ _ h.record }
  | addAlias s => exact .setRegistry _ w (.addAlias s _)

/-- `w'` is `w` except for what spaces hold under the names of which `P` holds, and for the record
of the registry `id`.  This record is about the same module, has lost no alias, has gained none but
those of which `A` holds, and has the same replaced objects under the other names. -/
structure Confined (id : RegistryId) (P : String → Prop) (A : SpaceId → Prop) (w w' : World) :
    Prop extends Within P w w' where
  others : ∀ j, j ≠ id → w'.registry j = w.registry j
  mutables : (w'.registry id).mutables = (w.registry id).mutables
  home : (w'.registry id).home = (w.registry id).home
  aliases : ∀ s ∈ (w.registry id).aliases, s ∈ (w'.registry id).aliases
  added : ∀ s ∈ (w'.registry id).aliases, s ∈ (w.registry id).aliases ∨ A s
  original : ∀ name, ¬ P name →
    (w'.registry id).replaced.get? name = (w.registry id).replaced.get? name

end World

namespace RecordStep

variable {op : Operation} {r r' : Registry}

/-- No operation changes what the registry is about. -/
theorem constant (h : RecordStep op r r') :
    r'.bindings = r.bindings ∧ r'.mutables = r.mutables ∧ r'.home = r.home ∧
      r'.factory = r.factory := by
  cases h with
  | saveAll | restoreAll =>
      rename_i h
      obtain ⟨⟨saved, rfl⟩, -⟩ := h
      exact ⟨rfl, rfl, rfl, rfl⟩
  | addAlias s =>
      unfold Registry.addAlias
      split <;> exact ⟨rfl, rfl, rfl, rfl⟩
  | _ => exact ⟨rfl, rfl, rfl, rfl⟩

/-- An operation keeps the aliases, and adds at most its own. -/
theorem mem_aliases_iff (h : RecordStep op r r') :
    (∀ s ∈ r.aliases, s ∈ r'.aliases) ∧ ∀ s ∈ r'.aliases, s ∈ r.aliases ∨ s ∈ op.alias? := by
  cases h with
  | saveAll | restoreAll =>
      rename_i h
      obtain ⟨⟨saved, rfl⟩, -⟩ := h
      exact ⟨fun _ hs => hs, fun _ hs => .inl hs⟩
  | addAlias t =>
      unfold Registry.addAlias
      split
      · exact ⟨fun _ hs => hs, fun _ hs => .inl hs⟩
      · refine ⟨fun _ hs => List.mem_append_left _ hs, fun s hs => ?_⟩
        refine (List.mem_append.mp hs).imp_right fun hs => ?_
        rw [List.mem_singleton.mp hs]
        rfl
  | _ => exact ⟨fun _ hs => hs, fun _ hs => .inl hs⟩

/-- What is replaced changes under the names that are written. -/
theorem get?_replaced (h : RecordStep op r r') {name : String} (hname : name ∉ op.writes r) :
    r'.replaced.get? name = r.replaced.get? name := by
  cases h with
  | mock other _ p => exact Table.get?_put_other _ _ fun hc => hname (List.mem_singleton.mpr hc)
  | unmock other =>
      have hne : name ≠ other := fun hc => hname (List.mem_singleton.mpr hc)
      exact (Table.get?_drop _ _ _).trans (if_neg hne)
  | unmockAll =>
      -- All recorded names are written, so that one that is not had nothing recorded before.
      have hnone : r.replaced.get? name = none := by
        rw [← Option.not_isSome_iff_eq_none, ← Table.mem_names_iff]
        exact hname
      rw [hnone]
      rfl
  | saveAll | restoreAll =>
      rename_i h
      obtain ⟨⟨saved, rfl⟩, -⟩ := h
      rfl
  | addAlias s =>
      unfold Registry.addAlias
      split <;> rfl
  | _ => rfl

/-- What is saved changes under the names that are touched. -/
theorem savedOf_eq (h : RecordStep op r r') {name : String} (hname : name ∉ op.touches r) :
    r'.savedOf name = r.savedOf name := by
  cases h with
  | save other o =>
      rw [Registry.savedOf_putSaved, if_neg fun hc => hname (List.mem_singleton.mpr hc)]
  | restore other o rest _ hstack =>
      rw [Registry.savedOf_putSaved, if_neg fun hc => hname (List.mem_singleton.mpr hc)]
  | saveAll _ _ h => exact h.2 name hname
  | restoreAll _ _ h => exact h.2 name hname
  | addAlias s =>
      unfold Registry.addAlias
      split <;> rfl
  | _ => rfl

/-- A name is recorded as replaced once. -/
theorem nodup_replaced (h : RecordStep op r r') (hnodup : r.replaced.names.Nodup) :
    r'.replaced.names.Nodup := by
  cases h with
  | mock name _ p => exact Table.nodup_names_put hnodup name p
  | unmock name => exact Table.nodup_names_drop hnodup name
  | unmockAll => exact List.nodup_nil
  | saveAll | restoreAll =>
      rename_i h
      obtain ⟨⟨saved, rfl⟩, -⟩ := h
      exact hnodup
  | addAlias s =>
      unfold Registry.addAlias
      split <;> exact hnodup
  | _ => exact hnodup

end RecordStep

namespace World

namespace Confined

variable {id : RegistryId} {P Q : String → Prop} {A B : SpaceId → Prop} {w w' w'' : World}

theorem refl (id : RegistryId) (P : String → Prop) (A : SpaceId → Prop) (w : World) :
    Confined id P A w w :=
  ⟨.refl P w, fun _ _ => rfl, rfl, rfl, fun _ hs => hs, fun _ hs => .inl hs, fun _ _ => rfl⟩

theorem trans (h : Confined id P A w w') (h' : Confined id P A w' w'') :
    Confined id P A w w'' where
  toWithin := h.toWithin.trans h'.toWithin
  others j hj := (h'.others j hj).trans (h.others j hj)
  mutables := h'.mutables.trans h.mutables
  home := h'.home.trans h.home
  aliases s hs := h'.aliases s (h.aliases s hs)
  added s hs := (h'.added s hs).elim (h.added s) .inr
  original name hname := (h'.original name hname).trans (h.original name hname)

theorem mono (hPQ : ∀ name, P name → Q name) (hAB : ∀ s, A s → B s) (h : Confined id P A w w') :
    Confined id Q B w w' :=
  { h with
    toWithin := h.toWithin.mono hPQ
    added := fun s hs => (h.added s hs).imp_right (hAB s)
    original := fun name hname => h.original name fun hP => hname (hPQ name hP) }

/-- The packages around the module are the same, unless its name may have changed. -/
theorem ancestors_eq (h : Confined id P A w w') (hkey : ¬ P nameKey) :
    w'.ancestors (w'.registry id) = w.ancestors (w.registry id) :=
  h.toWithin.ancestors hkey h.home

/-- The spaces that a registry may write after a change that spares the module's name. -/
theorem mem_targets (h : Confined id P A w w') (hkey : ¬ P nameKey) {s : SpaceId}
    (hs : s ∈ w'.targets (w'.registry id)) : s ∈ w.targets (w.registry id) ∨ A s := by
  unfold targets at hs ⊢
  rw [h.home, h.ancestors_eq hkey] at hs
  rcases List.mem_cons.mp hs with hs | hs
  · exact .inl (List.mem_cons.mpr (.inl hs))
  · rcases List.mem_append.mp hs with hs | hs
    · rcases h.added s hs with hs | hs
      · exact .inl (List.mem_cons_of_mem _ (List.mem_append_left _ hs))
      · exact .inr hs
    · exact .inl (List.mem_cons_of_mem _ (List.mem_append_right _ hs))

end Confined

/-- **The footprint of an operation**, whatever comes of it. -/
theorem perform_confined (w : World) (id : RegistryId) (op : Operation) :
    Confined id (· ∈ op.writes (w.registry id)) (· ∈ op.alias?) w (w.perform id op).1 := by
  have h := perform_effect w id op
  obtain ⟨-, hmutables, hhome, -⟩ := h.record.constant
  obtain ⟨haliases, hadded⟩ := h.record.mem_aliases_iff
  exact ⟨h.toWithin, h.others, hmutables, hhome, haliases, hadded,
    fun name hname => h.record.get?_replaced hname⟩

/-- **The footprint of a run** that does not undo all replacements at once: what no operation of it
may write stays. -/
theorem performAll_confined {id : RegistryId} {P : String → Prop} {A : SpaceId → Prop}
    (ops : List Operation) (w : World)
    (h : ∀ op ∈ ops, op ≠ .unmockAll ∧ (∀ name ∈ op.writes (w.registry id), P name) ∧
      ∀ s ∈ op.alias?, A s) :
    Confined id P A w (performAll id ops w) := by
  induction ops generalizing w with
  | nil => exact .refl id P A w
  | cons op ops ih =>
      obtain ⟨-, hwrites, halias⟩ := h op List.mem_cons_self
      have hstep := perform_confined w id op
      refine (hstep.mono hwrites halias).trans (ih _ fun op' hop' => ?_)
      obtain ⟨hnot, hwrites', halias'⟩ := h op' (List.mem_cons_of_mem op hop')
      -- What a later operation writes is told by the names that may be assigned again, and these
      -- are the same.
      refine ⟨hnot, ?_, halias'⟩
      rw [Operation.writes_congr hstep.mutables hnot]
      exact hwrites'

/-- **A registry records a name once**, in every world that a run has led to. -/
theorem nodup_replaced_actAll (actions : List Action) {w : World}
    (h : ∀ id, (w.registry id).replaced.names.Nodup) (id : RegistryId) :
    ((actAll actions w).registry id).replaced.names.Nodup := by
  have hstep : ∀ (w : World) (a : Action), (∀ i, (w.registry i).replaced.names.Nodup) →
      ∀ i, ((w.act a).registry i).replaced.names.Nodup := by
    intro w a hw i
    cases a with
    | operate j op =>
        -- An operation reaches one record, its own registry's.
        have heffect := perform_effect w j op
        by_cases hi : i = j
        · rw [hi]
          exact heffect.record.nodup_replaced (hw j)
        · rw [show (w.act (.operate j op)).registry i = w.registry i from heffect.others i hi]
          exact hw i
    -- Code of the modules reaches no record.
    | put | drop | load | unload => exact hw i
  exact actAll_preserves hstep actions h id

end World

end Standin
