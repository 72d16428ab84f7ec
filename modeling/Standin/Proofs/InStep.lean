/-
Spaces that stay in step with a module.

A space is in step with a module under a name when it reads the very object that the
module holds.  Replacing the name then finds that object in the space, and gives both
the new one (`InStep.install`).  So a space that is in step stays so through any
operations of the registry, whatever they are about and whether they succeed or fail for
the registry's own reasons.

Two things could come in between.  What is in the way of a write leaves the rest of the
spaces behind, so runs with such are left out.  And a package is passed by while the module holds a
scalar, so that a package, other than an alias, stays in step only as long as no scalar
is replaced.
-/
import Standin.Proofs.Writes

set_option autoImplicit false

namespace Standin.World

/-- That a space reads the very object that a module holds under a name. -/
def InStep (w : World) (r : Registry) (name : String) (s : SpaceId) : Prop :=
  ∃ p, w.own r.home name = some p ∧ w.read s name = some (.held p)

/-- That a registry writes a space whenever it replaces the name there and in the module: the space
is an alias, or it is a package and the module holds no scalar. -/
def Tracks (w : World) (r : Registry) (name : String) (s : SpaceId) : Prop :=
  s ∈ r.aliases ∨
    s ∈ w.ancestors r ∧ ∀ p ∈ w.own r.home name, p.isScalar = false

/-- A change within other names, the module's own apart, leaves a space tracked. -/
theorem Tracks.of_within {P : String → Prop} {w w' : World} {r : Registry} {name : String}
    {s : SpaceId} (h : Tracks w r name s) (hwithin : Within P w w') (hname : ¬ P name)
    (hkey : ¬ P nameKey) : Tracks w' r name s := by
  unfold Tracks
  rw [hwithin.ancestors hkey rfl, hwithin.own _ _ hname]
  exact h

/-! ## One replacement -/

namespace InStep

variable {w w' : World} {r r' : Registry} {name : String} {s : SpaceId}

/-- A change within other names leaves a space in step. -/
theorem of_within {P : String → Prop} (h : InStep w r name s) (hwithin : Within P w w')
    (hname : ¬ P name) (hhome : r'.home = r.home) : InStep w' r' name s := by
  obtain ⟨p, hown, hread⟩ := h
  refine ⟨p, ?_, ?_⟩
  · rw [hhome, hwithin.own _ _ hname]
    exact hown
  · rw [hwithin.read s hname]
    exact hread

/-- A space that is in step and is tracked follows. -/
theorem follows (h : InStep w r name s) (htracks : Tracks w r name s) : w.Follows r name s := by
  obtain ⟨p, hown, hread⟩ := h
  refine (follows_of_own hown s).mpr (.inr ⟨htracks.imp_right fun hpackage => ?_, hread⟩)
  exact ⟨hpackage.2 p hown, hpackage.1⟩

/-- **Replacing a name keeps a space in step**: it gets the object that the module gets. -/
theorem install {value : Object} (h : InStep w r name s) (htracks : Tracks w r name s)
    (hname : name ≠ nameKey) (hinstall : w.install r name value = (w', none)) :
    InStep w' r name s := by
  have hreceives : w.Receives r name value s :=
    (receives_iff_follows hname s).mpr (h.follows htracks)
  obtain ⟨hwrote, -⟩ := received_of_install hinstall
  obtain ⟨p, hown, -⟩ := h
  exact ⟨value, hwrote.gets _ (receives_home hown), hwrote.read_of hreceives⟩

/-- **A row of replacements keeps a space in step**, if nothing is in their way and no name comes
twice. -/
theorem writes {t : Table Object} (h : InStep w r name s) (htracks : Tracks w r name s)
    (hname : name ≠ nameKey) (hwrites : Writes r t none w w') (hnodup : t.names.Nodup)
    (hkey : nameKey ∉ t.names) : InStep w' r name s := by
  generalize hnone : none = obstacle? at hwrites
  induction hwrites with
  | quiet hquiet => exact h.of_within hquiet not_false rfl
  | @next w w₀ w₁ w' other value rest obstacle? hbefore hinstall hrest ih =>
      obtain ⟨hother, hnodup⟩ := List.nodup_cons.mp hnodup
      have hkeyrest : nameKey ∉ Table.names rest := fun hc => hkey (List.mem_cons_of_mem _ hc)
      have h₀ : InStep w₀ r name s := h.of_within hbefore not_false rfl
      have htracks₀ := htracks.of_within hbefore not_false not_false
      by_cases hsame : name = other
      · -- The rest of the row does not come back to the name.
        subst hsame
        exact (h₀.install htracks₀ hname hinstall).of_within hrest.within hother rfl
      · have hwithin := within_of_install hinstall
        have hkeyother : ¬ nameKey = other := fun hc => hkey (hc ▸ List.mem_cons_self)
        exact ih (h₀.of_within hwithin hsame rfl) (htracks₀.of_within hwithin hsame hkeyother)
          hnodup hkeyrest hnone
  | blocked => cases hnone

/-- **An operation keeps a space in step**, unless something is in the way of a write or the
module's own name is written. -/
theorem perform {id : RegistryId} {op : Operation} (h : InStep w (w.registry id) name s)
    (htracks : Tracks w (w.registry id) name s) (hname : name ≠ nameKey)
    (hnodup : (w.registry id).replaced.names.Nodup)
    (hkey : nameKey ∉ op.writes (w.registry id)) (hok : isBlocked (w.perform id op) = false) :
    InStep (w.perform id op).1 ((w.perform id op).1.registry id) name s := by
  obtain ⟨t, hwrites, hrow, hmem⟩ := (perform_writes w id op hnodup).accepted hok
  have hstep := h.writes htracks hname hwrites hrow fun hc => hkey (hmem _ hc)
  exact hstep.of_within (.refl (fun _ => False) _) not_false (perform_confined w id op).home

end InStep

/-! ## Runs -/

/-- **Staying in step.**  A space reads under a name the very object that the module of a registry
holds.  Then the registry performs any operations, of which none finds something in the way of a
write or writes the module's own name; they may fail for any other reason.  If the space is an
alias, it reads the very object that the module holds at the end.  So it does if it is a package
around the module and no operation found a scalar under the name in the module.  A registry records
a name once. -/
theorem inStep_performAll (w : World) (id : RegistryId) (name : String) (s : SpaceId)
    (ops : List Operation) (hname : name ≠ nameKey)
    (hnodup : (w.registry id).replaced.names.Nodup) (h : InStep w (w.registry id) name s)
    (hops : ∀ k (hk : k < ops.length), let w₁ := performAll id (ops.take k) w
      nameKey ∉ ops[k].writes (w₁.registry id) ∧ isBlocked (w₁.perform id ops[k]) = false) :
    let w' := performAll id ops w
    (s ∈ (w.registry id).aliases → InStep w' (w'.registry id) name s) ∧
      (s ∈ w.ancestors (w.registry id) →
        (∀ k < ops.length, ∀ p ∈ (performAll id (ops.take k) w).own (w.registry id).home name,
          p.isScalar = false) →
        InStep w' (w'.registry id) name s) := by
  induction ops generalizing w with
  | nil => exact ⟨fun _ => h, fun _ _ => h⟩
  | cons op ops ih =>
      obtain ⟨hkey, hok⟩ := hops 0 (Nat.zero_lt_succ _)
      have hconfined := perform_confined w id op
      have hrest := ih (w.perform id op).1
        ((perform_effect w id op).record.nodup_replaced hnodup)
      have hops' : ∀ k (hk : k < ops.length),
          let w₁ := performAll id (ops.take k) (w.perform id op).1
          nameKey ∉ ops[k].writes (w₁.registry id) ∧ isBlocked (w₁.perform id ops[k]) = false :=
        fun k hk => hops (k + 1) (Nat.succ_lt_succ hk)
      refine ⟨fun halias => ?_, fun hpackage hscalar => ?_⟩
      · have hstep := h.perform (.inl halias) hname hnodup hkey hok
        exact (hrest hstep hops').1 (hconfined.aliases s halias)
      · have htracks : Tracks w (w.registry id) name s :=
          .inr ⟨hpackage, hscalar 0 (Nat.zero_lt_succ _)⟩
        refine (hrest (h.perform htracks hname hnodup hkey hok) hops').2 ?_ fun k hk p hp => ?_
        · rw [hconfined.ancestors_eq hkey]
          exact hpackage
        · rw [hconfined.home] at hp
          exact hscalar (k + 1) (Nat.succ_lt_succ hk) p hp

/-- The package and an alias follow the module while the function is mocked, saved and restored, and
one call fails as the function is mocked already. -/
theorem inStep_performAll_birdhouse :
    let w := birdhouse.addAlias 0 2
    let ops : List Operation := [.mock "fetch" (some (.item 8 .resettable)), .mock "fetch" none,
      .save "fetch", .unmockAll, .mock "helper" none, .restoreAll]
    let w' := performAll 0 ops w
    w'.own 0 "fetch" = some (.item 8 .resettable) ∧
      w'.read 1 "fetch" = some (.held (.item 8 .resettable)) ∧
      w'.read 2 "fetch" = some (.held (.item 8 .resettable)) := by
  intro w ops
  have hops : ∀ k (hk : k < ops.length),
      nameKey ∉ ops[k].writes ((performAll 0 (ops.take k) w).registry 0) ∧
        isBlocked ((performAll 0 (ops.take k) w).perform 0 ops[k]) = false := by
    decide +kernel
  have hpackage := (inStep_performAll w 0 "fetch" 1 ops (by decide) (by decide)
    ⟨fetch, by decide, by decide⟩ hops).2 (by decide +kernel) (by decide +kernel)
  have halias := (inStep_performAll w 0 "fetch" 2 ops (by decide) (by decide)
    ⟨fetch, by decide, by decide⟩ hops).1 (by decide)
  have hhome : ((performAll 0 ops w).registry 0).home = 0 := by decide +kernel
  have hown : (performAll 0 ops w).own 0 "fetch" = some (.item 8 .resettable) := by decide +kernel
  generalize performAll 0 ops w = w' at hpackage halias hhome hown
  have hshown : ∀ s, InStep w' (w'.registry 0) "fetch" s →
      w'.read s "fetch" = some (.held (.item 8 .resettable)) := by
    rintro s ⟨p, hp, hread⟩
    rw [hhome, hown] at hp
    rw [hread, Option.some.inj hp]
  exact ⟨hown, hshown 1 hpackage, hshown 2 halias⟩

end Standin.World
