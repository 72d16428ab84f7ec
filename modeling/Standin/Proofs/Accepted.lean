/-
Operations where the spaces accept.

A registry whose spaces all accept and whose module is named is `Ready`, and what its
operations do is then known exactly.  A name of the module is mocked, unmocked or restored by
one write (`mock_accepted`, `unmock_accepted`, `restore_accepted`).  Undoing all replacements and
restoring all names work through a list, and each step sees the world as the last one
left it; yet a write stays within its name, so that each name comes out as if it alone
had been written, at the world of the start (`unmockAll_accepted`,
`restoreEach_accepted`).

The module's own name is left out, except where a name is unmocked by itself
(`unmock_received`): the packages that are written depend on it.  A registry stays ready as
long as no operation touches that name.
-/
import Standin.Proofs.Footprint

set_option autoImplicit false

namespace Standin.World

/-! ## What a change within other names does not touch -/

namespace Within

variable {P : String → Prop} {w w' : World} {r r' : Registry}

theorem targets_eq (h : Within P w w') (hkey : ¬ P nameKey) (hhome : r'.home = r.home)
    (haliases : r'.aliases = r.aliases) : w'.targets r' = w.targets r := by
  unfold targets
  rw [hhome, haliases, h.ancestors hkey hhome]

theorem follows_iff (h : Within P w w') {name : String} (hname : ¬ P name) (hkey : ¬ P nameKey)
    (hhome : r'.home = r.home) (haliases : r'.aliases = r.aliases) (s : SpaceId) :
    w'.Follows r' name s ↔ w.Follows r name s := by
  unfold Follows
  rw [hhome, haliases, h.own _ _ hname, h.read _ hname, h.ancestors hkey hhome]

end Within

/-- What a space holds under a name after it was replaced, if at all, by an object. -/
def ownAfter (w : World) (r : Registry) (name : String) (value? : Option Object) (s : SpaceId) :
    Option Object :=
  match value? with
  | some value => if w.Follows r name s then some value else w.own s name
  | none => w.own s name

theorem Wrote.own_eq {w w' : World} {r : Registry} {name : String} {value : Object}
    (h : Wrote w w' name value (w.Follows r name)) (s : SpaceId) :
    w'.own s name = w.ownAfter r name (some value) s := by
  unfold ownAfter
  dsimp only
  split
  · rename_i hs
    exact h.gets s hs
  · rename_i hs
    exact h.stays s hs

/-- The module's own space gets the object whenever it holds the name. -/
theorem ownAfter_home {w : World} {r : Registry} {name : String}
    (h : (w.own r.home name).isSome) (value? : Option Object) :
    w.ownAfter r name value? r.home = value?.or (w.own r.home name) := by
  obtain ⟨p, hp⟩ := Option.isSome_iff_exists.mp h
  unfold ownAfter
  cases value? with
  | none => rfl
  | some value => exact if_pos ((follows_of_own hp _).mpr (.inl rfl))

/-- After a change within other names a name is replaced as it would have been before. -/
theorem Within.ownAfter_eq {P : String → Prop} {w w' : World} {r r' : Registry}
    (h : Within P w w') {name : String} (hname : ¬ P name) (hkey : ¬ P nameKey)
    (hhome : r'.home = r.home) (haliases : r'.aliases = r.aliases) (value? : Option Object)
    (s : SpaceId) : w'.ownAfter r' name value? s = w.ownAfter r name value? s := by
  unfold ownAfter
  cases value? with
  | none => exact h.own s name hname
  | some value =>
      exact ite_congr (propext (h.follows_iff hname hkey hhome haliases s)) (fun _ => rfl)
        fun _ => h.own s name hname

/-! ## Single names -/

/-- A write after a change that no space shows. -/
theorem Wrote.after {w w₀ w₁ : World} {name : String} {value : Object} {P : SpaceId → Prop}
    (h : Within (fun _ => False) w w₀) (hregistry : w₀.registry = w.registry)
    (h' : Wrote w₀ w₁ name value P) : Wrote w w₁ name value P where
  toWithin := (h.mono fun _ hf => hf.elim).trans h'.toWithin
  registry := h'.registry.trans hregistry
  gets := h'.gets
  stays s hs := (h'.stays s hs).trans (h.own s name not_false)

/-- A registry sees what its module holds. -/
theorem valueOf_of_own {w : World} {r : Registry} {name : String} {p : Object}
    (hown : w.own r.home name = some p) : w.valueOf r name = some (.held p) := by
  unfold valueOf
  rw [hown]

/-- **After a name was written** in the module if that holds it, and else in the aliases that read it,
a registry sees the new object, if it saw any before. -/
theorem valueOf_of_given {w w' : World} {r r' : Registry} {name : String} {value : Object}
    {P : SpaceId → Prop} (hwrote : Wrote w w' name value P) (hhome : r'.home = r.home)
    (haliases : ∀ s, s ∈ r'.aliases ↔ s ∈ r.aliases)
    (hheld : (w.own r.home name).isSome → P r.home)
    (hreads : w.own r.home name = none → ∀ s, P s ↔ s ∈ r.aliases ∧ (w.read s name).isSome)
    (hbound : (w.valueOf r name).isSome) : w'.valueOf r' name = some (.held value) := by
  by_cases hgiven : P r.home
  · exact valueOf_of_own (hhome ▸ hwrote.gets _ hgiven)
  · have hown : w.own r.home name = none :=
      Option.not_isSome_iff_eq_none.mp fun hsome => hgiven (hheld hsome)
    have hown' : w'.own r'.home name = none := by
      rw [hhome, hwrote.stays _ hgiven, hown]
    have hread' : ∀ s ∈ r.aliases, (w.read s name).isSome → w'.read s name = some (.held value) :=
      fun s hs hread => hwrote.read_of ((hreads hown s).mpr ⟨hs, hread⟩)
    unfold valueOf readFirst at hbound ⊢
    rw [hown] at hbound
    rw [hown']
    -- Only the aliases are left, and those that read the name were all written.
    obtain ⟨s, hs, hread⟩ := List.findSome?_isSome_iff.mp hbound
    have hsome : (r'.aliases.findSome? fun s => w'.read s name).isSome :=
      List.findSome?_isSome_iff.mpr ⟨s, (haliases s).mpr hs, by rw [hread' s hs hread]; rfl⟩
    obtain ⟨sight, hsight⟩ := Option.isSome_iff_exists.mp hsome
    obtain ⟨t, ht, htread⟩ := List.exists_of_findSome?_eq_some hsight
    refine hsight.trans ?_
    by_cases htgiven : P t
    · rw [← htread, hwrote.read_of htgiven]
    · rw [hwrote.read_of_not htgiven] at htread
      refine absurd ((hreads hown t).mpr ⟨(haliases t).mp ht, ?_⟩) htgiven
      exact Option.isSome_of_eq_some htread

theorem isMocked_eq (r : Registry) (name : String) :
    r.isMocked name = (r.replaced.get? name).isSome := rfl

theorem isMocked_eq_false_iff {r : Registry} {name : String} :
    r.isMocked name = false ↔ r.replaced.get? name = none := by
  rw [isMocked_eq, Option.isSome_eq_false_iff, Option.isNone_iff_eq_none]

/-- A name that is mocked already is refused. -/
theorem mock_of_mocked {w : World} {id : RegistryId} {name : String} {p : Object}
    (h : (w.registry id).replaced.get? name = some p) (standIn : Option Object) :
    w.mock id name standIn = (w, .error (.registry (.alreadyMocked name))) := by
  have hmocked : (w.registry id).isMocked name = true := by
    rw [isMocked_eq, h]
    rfl
  unfold mock
  rw [if_pos hmocked]

/-- When the factory fails, mocking does. -/
theorem mock_of_not_made {w w₀ : World} {id : RegistryId} {name : String} {p : Object}
    {standIn : Option Object} {e : Failure} (hown : w.own (w.registry id).home name = some p)
    (hfree : (w.registry id).replaced.get? name = none)
    (hmade : w.standInFor (w.registry id).factory standIn = (w₀, .error e)) :
    w.mock id name standIn = (w₀, .error e) := by
  have hmocked : (w.registry id).isMocked name = false := isMocked_eq_false_iff.mpr hfree
  unfold mock
  simp only [hmocked, Bool.false_eq_true, if_false, valueOf_of_own hown, take, hmade]

/-- Mocking a name that the module holds, when there is a stand-in. -/
theorem mock_accepted {w w₀ : World} {id : RegistryId} {name : String} {p x : Object}
    (standIn : Option Object) (hname : name ≠ nameKey) (hnamed : w.Named (w.registry id))
    (hown : w.own (w.registry id).home name = some p)
    (hfree : (w.registry id).replaced.get? name = none)
    (hmade : w.standInFor (w.registry id).factory standIn = (w₀, .ok x))
    (haccept : ∀ s, w.Follows (w.registry id) name s → w.Accepts s) :
    ∃ w', w.mock id name standIn = (w', .ok x) ∧
      Wrote (w.setRegistry id ((w.registry id).putReplaced name p)) w' name x
        (w.Follows (w.registry id) name) := by
  obtain ⟨hwithin, hregistry⟩ := within_of_standInFor hmade
  have hfollows : ∀ s, w₀.Follows ((w.registry id).putReplaced name p) name s ↔
      w.Follows (w.registry id) name s :=
    hwithin.follows_iff not_false not_false rfl rfl
  obtain ⟨w', hinstall, hwrote⟩ :=
    install_accepted (w := w₀.setRegistry id ((w.registry id).putReplaced name p))
      (r := (w.registry id).putReplaced name p) x hname (hwithin.named not_false rfl hnamed)
      fun s hs => hwithin.accepts (haccept s ((hfollows s).mp hs))
  refine ⟨w', ?_, ?_⟩
  · have hmocked : (w.registry id).isMocked name = false := isMocked_eq_false_iff.mpr hfree
    unfold Registry.putReplaced at hinstall
    unfold mock
    simp only [hmocked, Bool.false_eq_true, if_false, valueOf_of_own hown, take, hmade, hinstall]
  · have hrecorded : Within (fun _ => False)
        (w.setRegistry id ((w.registry id).putReplaced name p))
        (w₀.setRegistry id ((w.registry id).putReplaced name p)) :=
      ⟨hwithin.own, hwithin.kept, hwithin.inherited, hwithin.refusal, hwithin.loaded⟩
    refine .after hrecorded ?_ (hwrote.congr hfollows)
    unfold setRegistry
    rw [hregistry]

/-- Unmocking a name, where the spaces that await the object accept it.  The name may be that of the
module itself. -/
theorem unmock_received {w : World} {id : RegistryId} {name : String} {p : Object}
    (hmocked : (w.registry id).replaced.get? name = some p)
    (hsearch : w.Searchable (w.registry id) name p)
    (haccept : ∀ s, w.Receives (w.registry id) name p s → w.Accepts s) :
    ∃ w', w.unmock id name = (w'.setRegistry id ((w.registry id).dropReplaced name), .ok p) ∧
      Wrote w w' name p (w.Receives (w.registry id) name p) := by
  obtain ⟨w', hinstall, hwrote⟩ := install_received hsearch haccept
  obtain ⟨hnone, -⟩ | ⟨p', w₁, obstacle?, hmocked', hinstall₁, hunmock⟩ := unmock_cases w id name
  · exact absurd (hmocked.symm.trans hnone) (Option.some_ne_none p)
  · obtain rfl := Option.some.inj (hmocked.symm.trans hmocked')
    obtain ⟨rfl, rfl⟩ := Prod.mk.inj (hinstall₁.symm.trans hinstall)
    exact ⟨w₁, hunmock, hwrote⟩

/-- Unmocking a name that is not that of the module. -/
theorem unmock_accepted {w : World} {id : RegistryId} {name : String} {p : Object}
    (hname : name ≠ nameKey) (hnamed : w.Named (w.registry id))
    (hmocked : (w.registry id).replaced.get? name = some p)
    (haccept : ∀ s, w.Follows (w.registry id) name s → w.Accepts s) :
    ∃ w', w.unmock id name = (w'.setRegistry id ((w.registry id).dropReplaced name), .ok p) ∧
      Wrote w w' name p (w.Follows (w.registry id) name) := by
  have hreceives : ∀ s, w.Receives (w.registry id) name p s ↔ w.Follows (w.registry id) name s :=
    receives_iff_follows hname
  obtain ⟨w', hunmock, hwrote⟩ :=
    unmock_received hmocked (hnamed.searchable hname) fun s hs => haccept s ((hreceives s).mp hs)
  exact ⟨w', hunmock, hwrote.congr hreceives⟩

/-- Saving a name that the module holds. -/
theorem save_of_own {w : World} {id : RegistryId} {name : String} {p : Object}
    (hown : w.own (w.registry id).home name = some p) :
    w.save id name = (w.setRegistry id
      ((w.registry id).putSaved name (p :: (w.registry id).savedOf name)), .ok p) := by
  obtain ⟨hnone, -⟩ | ⟨sight, hvalue, hsave⟩ := save_cases w id name
  all_goals have hheld := valueOf_of_own hown
  · rw [hheld] at hnone
    cases hnone
  · obtain rfl : Sight.held p = sight := Option.some.inj (hheld.symm.trans hvalue)
    exact hsave

/-- Restoring a name that was saved. -/
theorem restore_accepted {w : World} {id : RegistryId} {name : String} {o : Object}
    {rest : List Object} (hname : name ≠ nameKey) (hnamed : w.Named (w.registry id))
    (hsaved : (w.registry id).savedOf name = o :: rest)
    (haccept : ∀ s, w.Follows (w.registry id) name s → w.Accepts s) :
    ∃ w', w.restore id name = (w', .ok o) ∧
      Wrote (w.setRegistry id ((w.registry id).putSaved name rest)) w' name o
        (w.Follows (w.registry id) name) := by
  obtain ⟨w', hinstall, hwrote⟩ :=
    install_accepted (w := w.setRegistry id ((w.registry id).putSaved name rest))
      (r := (w.registry id).putSaved name rest) o hname hnamed haccept
  obtain ⟨w₁, obstacle?, hinstall₁, hrestore⟩ := restore_of_saved hsaved
  obtain ⟨rfl, rfl⟩ := Prod.mk.inj (hinstall₁.symm.trans hinstall)
  exact ⟨w₁, hrestore, hwrote⟩

/-! ## Registries that are ready -/

/-- All spaces that a registry may write accept, its module is named, and it has nothing replaced or
saved under the module's own name.  A table has a name once. -/
structure Ready (w : World) (id : RegistryId) : Prop where
  accepts : ∀ s ∈ w.targets (w.registry id), w.Accepts s
  named : w.Named (w.registry id)
  nodup : (w.registry id).replaced.names.Nodup
  unreplaced : (w.registry id).replaced.get? nameKey = none
  unsaved : (w.registry id).savedOf nameKey = []

namespace Ready

variable {w w' : World} {id : RegistryId}

/-- A registry that has done nothing yet. -/
theorem of_unused (haccept : ∀ s ∈ w.targets (w.registry id), w.Accepts s)
    (hnamed : w.Named (w.registry id)) (hreplaced : (w.registry id).replaced = [])
    (hsaved : (w.registry id).savedOf nameKey = []) : Ready w id := by
  refine ⟨haccept, hnamed, ?_, ?_, hsaved⟩ <;> rw [hreplaced]
  · exact List.nodup_nil
  · rfl

theorem nameKey_not_replaced (h : Ready w id) : nameKey ∉ (w.registry id).replaced.names := by
  rw [Table.mem_names_iff, h.unreplaced]
  exact Bool.false_ne_true

/-- Only operations on that very name touch the module's own name. -/
theorem nameKey_not_touched (h : Ready w id) (hmutables : nameKey ∉ (w.registry id).mutables)
    {op : Operation} (hop : op.name? ≠ some nameKey) : nameKey ∉ op.touches (w.registry id) := by
  have hone : ∀ name, some name ≠ some nameKey → nameKey ∉ [name] := fun name hname hc =>
    hname (congrArg some (List.mem_singleton.mp hc).symm)
  cases op with
  | mock name | unmock name | save name | restore name => exact hone name hop
  | unmockAll => exact h.nameKey_not_replaced
  | saveAll | restoreAll => exact hmutables
  | reset | resetAll | addAlias => exact List.not_mem_nil

/-- A change within other names that leaves the registry alone. -/
theorem of_within {P : String → Prop} (h : Ready w id) (hwithin : Within P w w')
    (hkey : ¬ P nameKey) (hregistry : w'.registry id = w.registry id) : Ready w' id := by
  refine ⟨fun s hs => ?_, ?_, ?_, ?_, ?_⟩
  · rw [hregistry, hwithin.targets_eq hkey rfl rfl] at hs
    exact hwithin.accepts (h.accepts s hs)
  · rw [hregistry]
    exact hwithin.named hkey rfl h.named
  · rw [hregistry]
    exact h.nodup
  · rw [hregistry]
    exact h.unreplaced
  · rw [hregistry]
    exact h.unsaved

/-- **A registry stays ready** under operations that do not touch the module's own name. -/
theorem perform (h : Ready w id) {op : Operation} (hkey : nameKey ∉ op.touches (w.registry id))
    (halias : ∀ s ∈ op.alias?, w.Accepts s) : Ready (w.perform id op).1 id := by
  have hrecord := (perform_effect w id op).record
  have hconfined := perform_confined w id op
  have hwrites : nameKey ∉ op.writes (w.registry id) := fun hc =>
    hkey (Operation.mem_touches_of_mem_writes hc)
  refine ⟨fun s hs => hconfined.accepts ?_, hconfined.named hwrites hconfined.home h.named,
    hrecord.nodup_replaced h.nodup, ?_, ?_⟩
  · exact (hconfined.mem_targets hwrites hs).elim (h.accepts s) (halias s)
  · rw [hconfined.original nameKey hwrites]
    exact h.unreplaced
  · rw [hrecord.savedOf_eq hkey]
    exact h.unsaved

end Ready

/-! ## Undoing all replacements -/

/-- Each name of a table is replaced as if it were the only one. -/
theorem installAll_accepted (r : Registry) (table : Table Object) (w : World)
    (hnodup : table.names.Nodup) (hkey : nameKey ∉ table.names) (hnamed : w.Named r)
    (haccept : ∀ s ∈ w.targets r, w.Accepts s) :
    (installAll r table w).2 = none ∧
      ∀ name s, (installAll r table w).1.own s name = w.ownAfter r name (table.get? name) s := by
  induction table generalizing w with
  | nil => exact ⟨rfl, fun name s => rfl⟩
  | cons entry rest ih =>
      obtain ⟨k, v⟩ := entry
      obtain ⟨hk, hrest⟩ := List.nodup_cons.mp hnodup
      have hne : k ≠ nameKey := fun h => hkey (h ▸ List.mem_cons_self)
      obtain ⟨w₁, hinstall, hwrote⟩ := install_accepted v hne hnamed fun s hs =>
        haccept s (mem_targets_of_follows hs)
      have hwithin := hwrote.toWithin
      have hnamed₁ : w₁.Named r := hwithin.named hne.symm rfl hnamed
      have htargets : w₁.targets r = w.targets r := hwithin.targets_eq hne.symm rfl rfl
      obtain ⟨hok, hown⟩ := ih w₁ hrest (fun h => hkey (List.mem_cons_of_mem _ h)) hnamed₁
        fun s hs => hwrote.accepts (haccept s (htargets ▸ hs))
      rw [installAll, hinstall]
      refine ⟨hok, fun name s => ?_⟩
      rw [hown name s]
      by_cases hname : k = name
      · subst hname
        -- The rest of the table does not come back to `k`.
        have hnone : Table.get? rest k = none := by
          rw [← Option.not_isSome_iff_eq_none, ← Table.mem_names_iff]
          exact hk
        rw [hnone, Table.get?_cons, if_pos rfl]
        exact hwrote.own_eq s
      · rw [Table.get?_cons, if_neg hname]
        exact hwithin.ownAfter_eq (Ne.symm hname) hne.symm rfl rfl _ s

/-- **Undoing all replacements**, where none is under the module's own name. -/
theorem unmockAll_each {w : World} {id : RegistryId}
    (hnodup : (w.registry id).replaced.names.Nodup)
    (hkey : nameKey ∉ (w.registry id).replaced.names) (hnamed : w.Named (w.registry id))
    (haccept : ∀ s ∈ w.targets (w.registry id), w.Accepts s) :
    (w.unmockAll id).2 = .ok () ∧
      ∀ name s, (w.unmockAll id).1.own s name =
        w.ownAfter (w.registry id) name ((w.registry id).replaced.get? name) s := by
  obtain ⟨hok, hown⟩ :=
    installAll_accepted (w.registry id) (w.registry id).replaced w hnodup hkey hnamed haccept
  obtain ⟨w', obstacle, hinstall, -⟩ | ⟨w', hinstall, hunmock⟩ := unmockAll_cases w id
  all_goals rw [hinstall] at hok hown
  · cases hok
  · rw [hunmock]
    exact ⟨rfl, hown⟩

/-- **Undoing all replacements** of a registry that is ready. -/
theorem unmockAll_accepted {w : World} {id : RegistryId} (h : Ready w id) :
    (w.unmockAll id).2 = .ok () ∧
      (w.unmockAll id).1.registry id = { w.registry id with replaced := [] } ∧
      ∀ name s, (w.unmockAll id).1.own s name =
        w.ownAfter (w.registry id) name ((w.registry id).replaced.get? name) s := by
  obtain ⟨hok, hown⟩ := unmockAll_each h.nodup h.nameKey_not_replaced h.named h.accepts
  refine ⟨hok, ?_, hown⟩
  rw [registry_unmockAll hok, registry_setRegistry, if_pos rfl]

/-! ## Saving and restoring all names -/

/-- A name that the module holds is saved as often as it stands in the list. -/
theorem saveEach_of_own {id : RegistryId} {name : String} {p : Object} (names : List String)
    {w : World} (hown : w.own (w.registry id).home name = some p) :
    ∃ pushed, (∀ o ∈ pushed, o = p) ∧
      ((saveEach id names w).registry id).savedOf name =
        pushed ++ (w.registry id).savedOf name := by
  induction names generalizing w with
  | nil => exact ⟨[], fun o ho => absurd ho List.not_mem_nil, rfl⟩
  | cons k rest ih =>
      have heffect := save_effect (fun _ => False) w id k
      obtain ⟨-, -, hhome, -⟩ := heffect.record.constant
      -- Saving changes no space, so that the module holds `p` for the rest of the list too.
      obtain ⟨pushed, hpushed, hsaved⟩ := ih (w := (w.save id k).1) (by
        rw [hhome, heffect.own _ _ not_false]
        exact hown)
      rw [saveEach]
      by_cases hk : name = k
      · subst hk
        rw [save_of_own hown, registry_setRegistry, if_pos rfl, Registry.savedOf_putSaved,
          if_pos rfl] at hsaved
        refine ⟨pushed ++ [p], fun o ho => ?_, ?_⟩
        · exact (List.mem_append.mp ho).elim (hpushed o) List.mem_singleton.mp
        · rw [save_of_own hown, hsaved, List.append_assoc]
          rfl
      · refine ⟨pushed, hpushed, ?_⟩
        rw [hsaved, heffect.record.savedOf_eq fun hc => hk (List.mem_singleton.mp hc)]

/-- Restoring the first name of a list where the spaces accept: the name is written if something is
saved for it, nothing is saved for it any more, and the rest of the list follows. -/
theorem restoreEach_cons_accepted {w : World} {id : RegistryId} {k : String} (rest : List String)
    (hkey : k = nameKey → (w.registry id).savedOf k = []) (hnamed : w.Named (w.registry id))
    (haccept : ∀ s ∈ w.targets (w.registry id), w.Accepts s) :
    ∃ w₁, restoreEach id (k :: rest) w = restoreEach id rest w₁ ∧
      Within (fun name => name = k ∧ name ≠ nameKey) w w₁ ∧
      (∃ saved, w₁.registry id = { w.registry id with saved := saved }) ∧
      (∀ name, (w₁.registry id).savedOf name =
        if name = k then [] else (w.registry id).savedOf name) ∧
      ∀ s, w₁.own s k = w.ownAfter (w.registry id) k ((w.registry id).savedOf k).getLast? s := by
  obtain ⟨hunsaved, hstep⟩ | ⟨oldest, w', obstacle, hlast, hinstall, hstep⟩ |
    ⟨oldest, w', hlast, hinstall, hstep⟩ := restoreEach_cases w id k rest
  · refine ⟨w, hstep, .refl _ w, ⟨_, rfl⟩, fun name => ?_, fun s => ?_⟩
    · split
      · next h => rw [h, hunsaved]
      · rfl
    · rw [hunsaved]
      rfl
  all_goals
    have hne : k ≠ nameKey := by
      intro h
      rw [hkey h] at hlast
      cases hlast
    obtain ⟨w₁, hinstall₁, hwrote⟩ := install_accepted oldest hne hnamed fun s hs =>
      haccept s (mem_targets_of_follows hs)
    rw [hinstall] at hinstall₁
    cases hinstall₁
  -- Nothing is in the way, so the oldest object was written.
  refine ⟨_, hstep, ?_, ⟨(w.registry id).saved.put k [], ?_⟩, fun name => ?_, fun s => ?_⟩
  · have hwithin : Within (fun name => name = k ∧ name ≠ nameKey) w w' :=
      hwrote.toWithin.mono fun name hname => ⟨hname, hname ▸ hne⟩
    exact hwithin.trans (.of_space_eq _ rfl rfl)
  · rw [registry_setRegistry, if_pos rfl]
    rfl
  · rw [registry_setRegistry, if_pos rfl, Registry.savedOf_putSaved]
  · rw [hlast]
    exact hwrote.own_eq s

/-- Each name of a list is restored as if it were the only one.  If the module's own name is among
them, nothing is saved for it. -/
theorem restoreEach_accepted (id : RegistryId) (names : List String) (w : World)
    (hkey : nameKey ∈ names → (w.registry id).savedOf nameKey = [])
    (hnamed : w.Named (w.registry id))
    (haccept : ∀ s ∈ w.targets (w.registry id), w.Accepts s) :
    (restoreEach id names w).2 = .ok () ∧
      ((restoreEach id names w).1.registry id).replaced = (w.registry id).replaced ∧
      ∀ name, ((restoreEach id names w).1.registry id).savedOf name =
          (if name ∈ names then [] else (w.registry id).savedOf name) ∧
        ∀ s, (restoreEach id names w).1.own s name =
          if name ∈ names then
            w.ownAfter (w.registry id) name ((w.registry id).savedOf name).getLast? s
          else w.own s name := by
  induction names generalizing w with
  | nil => exact ⟨rfl, rfl, fun name => ⟨(if_neg List.not_mem_nil).symm, fun s => rfl⟩⟩
  | cons k rest ih =>
      obtain ⟨w₁, hstep, hwithin, ⟨saved, hrecord⟩, hsaved, hown⟩ :=
        restoreEach_cons_accepted rest (fun h => h ▸ hkey (h ▸ List.mem_cons_self)) hnamed haccept
      have hnotKey : ¬ (nameKey = k ∧ nameKey ≠ nameKey) := fun h => h.2 rfl
      have hhome : (w₁.registry id).home = (w.registry id).home := by rw [hrecord]
      have haliases : (w₁.registry id).aliases = (w.registry id).aliases := by rw [hrecord]
      have htargets : w₁.targets (w₁.registry id) = w.targets (w.registry id) :=
        hwithin.targets_eq hnotKey hhome haliases
      have hkey₁ : nameKey ∈ rest → (w₁.registry id).savedOf nameKey = [] := by
        intro h
        rw [hsaved, hkey (List.mem_cons_of_mem k h), ite_self]
      have hnamed₁ : w₁.Named (w₁.registry id) := hwithin.named hnotKey hhome hnamed
      obtain ⟨hok, hreplaced, hrest⟩ :=
        ih w₁ hkey₁ hnamed₁ fun s hs => hwithin.accepts (haccept s (htargets ▸ hs))
      rw [hstep]
      refine ⟨hok, ?_, fun name => ⟨?_, fun s => ?_⟩⟩
      · rw [hreplaced, hrecord]
      · rw [(hrest name).1, hsaved]
        by_cases hname : name = k <;> simp [hname]
      · rw [(hrest name).2 s]
        by_cases hname : name = k
        · subst hname
          -- Nothing is saved for the name any more, so that it is not written again.
          rw [hsaved, if_pos rfl, if_pos List.mem_cons_self, ← hown]
          exact ite_self _
        · have hother : ¬ (name = k ∧ name ≠ nameKey) := fun h => hname h.1
          rw [hsaved, if_neg hname, hwithin.own s name hother,
            hwithin.ownAfter_eq hother hnotKey hhome haliases]
          simp [hname]

/-- Names for which nothing is saved are passed by. -/
theorem restoreEach_of_unsaved {id : RegistryId} {w : World} (names : List String)
    (h : ∀ name ∈ names, (w.registry id).savedOf name = []) :
    restoreEach id names w = (w, .ok ()) := by
  induction names with
  | nil => rfl
  | cons name rest ih =>
      rw [restoreEach, h name List.mem_cons_self]
      exact ih fun other hother => h other (List.mem_cons_of_mem name hother)

/-! ## Undoing everything -/

section Undo

variable {w : World} {id : RegistryId}

theorem restoreAll_ok (h : Ready w id) : (w.restoreAll id).2 = .ok () :=
  (restoreEach_accepted id (w.registry id).mutables w (fun _ => h.unsaved) h.named h.accepts).1

theorem Ready.unmockAll (h : Ready w id) : Ready (w.unmockAll id).1 id := by
  have hkey : nameKey ∉ Operation.unmockAll.touches (w.registry id) := h.nameKey_not_replaced
  exact h.perform hkey fun s hs => absurd hs (Option.not_mem_none s)

/-- A registry that is ready gets as far as restoring. -/
theorem undo_eq (h : Ready w id) : w.undo id = (w.unmockAll id).1.restoreAll id := by
  have hok := (unmockAll_accepted h).1
  unfold undo
  generalize w.unmockAll id = result at hok ⊢
  obtain ⟨w₁, outcome⟩ := result
  subst hok
  rfl

theorem home_undo (h : Ready w id) : ((w.undo id).1.registry id).home = (w.registry id).home := by
  rw [undo_eq h]
  exact (perform_confined (w.unmockAll id).1 id .restoreAll).home.trans
    (perform_confined w id .unmockAll).home

theorem undo_ok (h : Ready w id) : (w.undo id).2 = .ok () := by
  rw [undo_eq h]
  exact restoreAll_ok h.unmockAll

theorem undoAll_cons (h : Ready w id) (ids : List RegistryId) :
    undoAll (id :: ids) w = undoAll ids (w.undo id).1 := by
  have hok := undo_ok h
  rw [undoAll]
  generalize w.undo id = result at hok ⊢
  obtain ⟨w₁, outcome⟩ := result
  subst hok
  rfl

end Undo

end Standin.World
