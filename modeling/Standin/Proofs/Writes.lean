/-
The writes of an operation, one after another.

An operation of a registry replaces a few names, each in the spaces that the registry
keeps in step, and changes nothing else that a space shows.  It ends at the first
obstacle.  `Writes` is such a row of replacements, with the objects put in place and the
obstacle at its end, if there is one; `perform_writes` finds it for each operation, and
says that no name comes twice in it.  What is said elsewhere of single cells is proved
for rows, by induction on them.

Here it is where the changed cells lie (`perform_footprint`).  A registry looks for the
packages around its module each time it writes, under the name that the module has then.
So the module's own name is the only one that makes a difference: an operation that
writes it among others reaches the packages around the old name before, and those around
the new name after.  As the name comes once there are no others in between.
-/
import Standin.Proofs.RoundTrip

set_option autoImplicit false

namespace Standin.World

/-! ## One replacement, cell by cell -/

section Install

variable {w : World} {r : Registry} {name : String} {value : Object}

/-- Replacing a name stays within it. -/
theorem within_of_install {w' : World} {obstacle? : Option Obstacle}
    (hinstall : w.install r name value = (w', obstacle?)) : Within (· = name) w w' := by
  obtain rfl : (w.install r name value).1 = w' := congrArg Prod.fst hinstall
  exact (install_within w r name value).1

/-- Replacing a name changes no registry. -/
theorem registry_of_install {w' : World} {obstacle? : Option Obstacle}
    (hinstall : w.install r name value = (w', obstacle?)) : w'.registry = w.registry := by
  obtain rfl : (w.install r name value).1 = w' := congrArg Prod.fst hinstall
  exact (install_within w r name value).2

/-- A write depends on the module and the aliases of its registry alone. -/
theorem install_congr {r' : Registry} (hhome : r'.home = r.home)
    (haliases : r'.aliases = r.aliases) : w.install r' name value = w.install r name value := by
  unfold install packagesFor misnomer? ancestors moduleName
  rw [hhome, haliases]

/-- Replacing a name changes cells under this name alone, in spaces that the registry may write; if
it is the module's own name, the packages are those around the new one. -/
theorem mem_of_own_install_ne {w' : World} {obstacle? : Option Obstacle}
    (hinstall : w.install r name value = (w', obstacle?)) {s : SpaceId} {other : String}
    (h : w'.own s other ≠ w.own s other) :
    other = name ∧ (s ∈ w.targets r ∨ name = nameKey ∧ s ∈ w'.ancestors r) := by
  obtain ⟨reached, rest, hvisited, hhanded⟩ := install_handed w r name value
  rw [hinstall] at hhanded
  have hother : other = name :=
    Classical.byContradiction fun hne => h (hhanded.toWithin.own s other hne)
  rw [hother] at h
  have hs : s ∈ reached :=
    Classical.byContradiction fun hnot => h (hhanded.stays s fun hc => hnot hc.1)
  have hmem : s ∈ w.visited r name value := hvisited ▸ List.mem_append_left rest hs
  refine ⟨hother, ?_⟩
  cases hown : w.own r.home name with
  | none =>
      rw [visited_of_not_own hown] at hmem
      exact .inl (List.mem_cons_of_mem _ (List.mem_append_left _ hmem))
  | some previous =>
      rcases (mem_visited_of_own hown).mp hmem with hs' | hs' | ⟨-, hpackage⟩
      · exact .inl (hs' ▸ List.mem_cons_self)
      · exact .inl (List.mem_cons_of_mem _ (List.mem_append_left _ hs'))
      · by_cases hkey : name = nameKey
        · -- The module was written, so that it has the name by which the packages were found.
          have hhome : r.home ∈ reached ∧ w.Awaits name (w.own r.home name) r.home := by
            refine ⟨home_mem_of_mem hown hvisited hs, ?_⟩
            rw [hown, awaits_some_iff]
            exact read_of_own hown
          have hsame : w'.own r.home nameKey = (w.put r.home name value).own r.home nameKey := by
            rw [← hkey, hhanded.gets _ hhome, own_put, if_pos ⟨rfl, rfl⟩]
          rw [← ancestors_congr hsame hhanded.loaded] at hpackage
          exact .inr ⟨hkey, hpackage⟩
        · rw [ancestors_put hkey] at hpackage
          exact .inl (List.mem_cons_of_mem _ (List.mem_append_right _ hpackage))

/-- Replacing a name makes nothing readable or unreadable. -/
theorem isSome_read_install {w' : World} {obstacle? : Option Obstacle}
    (hinstall : w.install r name value = (w', obstacle?)) (s : SpaceId) (other : String) :
    (w'.read s other).isSome = (w.read s other).isSome := by
  obtain ⟨reached, rest, -, hhanded⟩ := install_handed w r name value
  rw [hinstall] at hhanded
  by_cases hother : other = name
  · subst hother
    by_cases hs : s ∈ reached ∧ w.Awaits other (w.own r.home other) s
    · -- A space that awaits an object reads the name.
      obtain ⟨current, hread, -⟩ := hs.2
      rw [hhanded.read_of hs, hread]
      rfl
    · rw [hhanded.read_of_not hs]
  · rw [hhanded.toWithin.read s hother]

end Install

/-! ## Rows of replacements -/

/-- `w'` comes from `w` by replacing the names of a table, one after another, in the spaces of a
registry.  What else changes on the way is shown by no space.  If something was in the way of the
last replacement, it is given, and nothing comes after it. -/
inductive Writes (r : Registry) : Table Object → Option Obstacle → World → World → Prop where
  | quiet {w w' : World} (h : Within (fun _ => False) w w') : Writes r [] none w w'
  | next {w w₀ w₁ w' : World} {name : String} {value : Object} {rest : Table Object}
    {obstacle? : Option Obstacle} (hbefore : Within (fun _ => False) w w₀)
    (h : w₀.install r name value = (w₁, none)) (hrest : Writes r rest obstacle? w₁ w') :
    Writes r ((name, value) :: rest) obstacle? w w'
  | blocked {w w₀ w₁ : World} {name : String} {value : Object} {obstacle : Obstacle}
    (hbefore : Within (fun _ => False) w w₀)
    (h : w₀.install r name value = (w₁, some obstacle)) :
    Writes r [(name, value)] (some obstacle) w w₁

namespace Writes

variable {r : Registry} {t : Table Object} {obstacle? : Option Obstacle} {w w₀ w' : World}

/-- A change that no space shows may come first. -/
theorem before (h : Within (fun _ => False) w w₀) (h' : Writes r t obstacle? w₀ w') :
    Writes r t obstacle? w w' := by
  cases h' with
  | quiet hquiet => exact .quiet (h.trans hquiet)
  | next hbefore hinstall hrest => exact .next (h.trans hbefore) hinstall hrest
  | blocked hbefore hinstall => exact .blocked (h.trans hbefore) hinstall

/-- It may come last, when nothing was in the way. -/
theorem after (h : Writes r t none w w₀) (h' : Within (fun _ => False) w₀ w') :
    Writes r t none w w' := by
  generalize hnone : none = obstacle? at h
  induction h with
  | quiet hquiet => exact hnone ▸ .quiet (hquiet.trans h')
  | next hbefore hinstall _ ih => exact .next hbefore hinstall (ih h' hnone)
  | blocked => cases hnone

/-- A row stays within its names. -/
theorem within (h : Writes r t obstacle? w w') : Within (· ∈ t.names) w w' := by
  induction h with
  | quiet hquiet => exact hquiet.mono fun _ hfalse => hfalse.elim
  | @next w w₀ w₁ w' name value rest obstacle? hbefore hinstall _ ih =>
      have hwrite : Within (· ∈ Table.names ((name, value) :: rest)) w₀ w₁ :=
        (within_of_install hinstall).mono fun _ hn => List.mem_cons.mpr (.inl hn)
      have hrest : Within (· ∈ Table.names ((name, value) :: rest)) w₁ w' :=
        ih.mono fun _ hn => List.mem_cons_of_mem _ hn
      exact (hbefore.mono fun _ hfalse => hfalse.elim).trans (hwrite.trans hrest)
  | blocked hbefore hinstall =>
      refine (hbefore.mono fun _ hfalse => hfalse.elim).trans ?_
      exact (within_of_install hinstall).mono fun _ hn => List.mem_cons.mpr (.inl hn)

/-- A row makes nothing readable or unreadable. -/
theorem isSome_read (h : Writes r t obstacle? w w') (s : SpaceId) (other : String) :
    (w'.read s other).isSome = (w.read s other).isSome := by
  induction h with
  | quiet hquiet => rw [hquiet.read s not_false]
  | next hbefore hinstall _ ih =>
      rw [ih, isSome_read_install hinstall, hbefore.read s not_false]
  | blocked hbefore hinstall =>
      rw [isSome_read_install hinstall, hbefore.read s not_false]

/-- What a write of a row changes, counted from before the changes that no space shows. -/
theorem mem_of_own_ne_install {w₁ : World} {name : String} {value : Object}
    (hbefore : Within (fun _ => False) w w₀)
    (hinstall : w₀.install r name value = (w₁, obstacle?)) {s : SpaceId} {other : String}
    (hne : w₁.own s other ≠ w.own s other) :
    other = name ∧ (s ∈ w.targets r ∨ name = nameKey ∧ s ∈ w₁.ancestors r) := by
  have htargets : w₀.targets r = w.targets r := hbefore.targets_eq not_false rfl rfl
  rw [← hbefore.own s other not_false] at hne
  rw [← htargets]
  exact mem_of_own_install_ne hinstall hne

/-- **Where a row changes cells**: under its names, in the module's own space, in the aliases, and
in the packages around the module, by the name that it has before or, if that is in the row too, by
the one that it has after. -/
theorem mem_of_own_ne (h : Writes r t obstacle? w w') (hnodup : t.names.Nodup) {s : SpaceId}
    {other : String} (hne : w'.own s other ≠ w.own s other) :
    other ∈ t.names ∧ (s ∈ w.targets r ∨ nameKey ∈ t.names ∧ s ∈ w'.ancestors r) := by
  induction h with
  | quiet hquiet => exact absurd (hquiet.own s other not_false) hne
  | @next w w₀ w₁ w' name value rest obstacle? hbefore hinstall hrest ih =>
      obtain ⟨hname, hnodup⟩ := List.nodup_cons.mp hnodup
      have hhead : name ∈ Table.names ((name, value) :: rest) := List.mem_cons_self
      -- After the module's own name was written it is not written again.
      have hkey : name = nameKey → w'.ancestors r = w₁.ancestors r := fun hkey =>
        hrest.within.ancestors (hkey ▸ hname) rfl
      by_cases hlater : w'.own s other = w₁.own s other
      · rw [hlater] at hne
        obtain ⟨rfl, hs | ⟨rfl, hs⟩⟩ := mem_of_own_ne_install hbefore hinstall hne
        · exact ⟨hhead, .inl hs⟩
        · exact ⟨hhead, .inr ⟨hhead, (hkey rfl).symm ▸ hs⟩⟩
      · obtain ⟨hmem, hs⟩ := ih hnodup hlater
        refine ⟨List.mem_cons_of_mem _ hmem, ?_⟩
        rcases hs with hs | ⟨hlast, hs⟩
        · by_cases hn : name = nameKey
          · -- The packages are those around the new name already.
            rcases List.mem_cons.mp hs with hs | hs
            · exact .inl (List.mem_cons.mpr (.inl hs))
            · rcases List.mem_append.mp hs with hs | hs
              · exact .inl (List.mem_cons_of_mem _ (List.mem_append_left _ hs))
              · exact .inr ⟨hn ▸ hhead, (hkey hn).symm ▸ hs⟩
          · have hwritten : w₁.targets r = w₀.targets r :=
              (within_of_install hinstall).targets_eq (Ne.symm hn) rfl rfl
            have htargets : w₀.targets r = w.targets r := hbefore.targets_eq not_false rfl rfl
            rw [hwritten, htargets] at hs
            exact .inl hs
        · exact .inr ⟨List.mem_cons_of_mem _ hlast, hs⟩
  | @blocked w w₀ w₁ name value obstacle hbefore hinstall =>
      have hhead : name ∈ Table.names [(name, value)] := List.mem_cons_self
      obtain ⟨rfl, hs | ⟨rfl, hs⟩⟩ := mem_of_own_ne_install hbefore hinstall hne
      · exact ⟨hhead, .inl hs⟩
      · exact ⟨hhead, .inr ⟨hhead, hs⟩⟩

/-- A row depends on the module and the aliases of its registry alone. -/
theorem congr {r' : Registry} (h : Writes r t obstacle? w w') (hhome : r'.home = r.home)
    (haliases : r'.aliases = r.aliases) : Writes r' t obstacle? w w' := by
  induction h with
  | quiet hquiet => exact .quiet hquiet
  | next hbefore hinstall _ ih =>
      exact .next hbefore ((install_congr hhome haliases).trans hinstall) ih
  | blocked hbefore hinstall =>
      exact .blocked hbefore ((install_congr hhome haliases).trans hinstall)

end Writes

/-! ## The rows of the operations -/

/-- Whether an operation ended at a name that could not be replaced everywhere: at a refused write,
or where the packages could not be looked for. -/
def isBlocked {α : Type} (result : Result α) : Bool :=
  match result.2 with
  | .error (.blocked _) => true
  | _ => false

/-- If an obstacle at the end of a row is the failure of an operation that was not blocked, there is
none. -/
theorem eq_none_of_accepted {α : Type} {result : Result α} {obstacle? : Option Obstacle}
    (hblocked : ∀ obstacle, obstacle? = some obstacle → result.2 = .error (.blocked obstacle))
    (hok : isBlocked result = false) : obstacle? = none := by
  cases obstacle? with
  | none => rfl
  | some obstacle =>
      unfold isBlocked at hok
      rw [hblocked obstacle rfl] at hok
      cases hok

/-- A result reached from `w` by writing each of some names at most once; if something was in the
way, this is the failure. -/
def WritesOnce {α : Type} (r : Registry) (names : List String) (w : World) (result : Result α) :
    Prop :=
  ∃ t obstacle?, Writes r t obstacle? w result.1 ∧ t.names.Nodup ∧
    (∀ name ∈ t.names, name ∈ names) ∧
    ∀ obstacle, obstacle? = some obstacle → result.2 = .error (.blocked obstacle)

namespace WritesOnce

variable {α : Type} {r : Registry} {names : List String} {w w' : World}

/-- Nothing is written. -/
theorem quiet (h : Within (fun _ => False) w w') (outcome : Except Failure α) :
    WritesOnce r names w (w', outcome) := by
  refine ⟨[], none, .quiet h, List.nodup_nil, fun name hname => ?_, fun obstacle hobstacle => ?_⟩
  · exact absurd hname List.not_mem_nil
  · cases hobstacle

/-- A single write that went through, and after it nothing that a space shows. -/
theorem of_install {w₀ w₁ : World} {name : String} {value : Object}
    (hname : name ∈ names) (hbefore : Within (fun _ => False) w w₀)
    (hinstall : w₀.install r name value = (w₁, none)) (hafter : Within (fun _ => False) w₁ w')
    (outcome : Except Failure α) : WritesOnce r names w (w', outcome) := by
  have hnodup : (Table.names [(name, value)]).Nodup :=
    List.nodup_cons.mpr ⟨List.not_mem_nil, List.nodup_nil⟩
  refine ⟨[(name, value)], none, .next hbefore hinstall (.quiet hafter), hnodup,
    fun other hother => ?_, fun obstacle hobstacle => ?_⟩
  · rw [List.mem_singleton.mp hother]
    exact hname
  · cases hobstacle

/-- A single write that did not go through. -/
theorem of_blocked {w₀ w₁ : World} {name : String} {value : Object} {obstacle : Obstacle}
    (hname : name ∈ names) (hbefore : Within (fun _ => False) w w₀)
    (hinstall : w₀.install r name value = (w₁, some obstacle)) :
    WritesOnce r names w ((w₁, .error (.blocked obstacle)) : Result α) := by
  have hnodup : (Table.names [(name, value)]).Nodup :=
    List.nodup_cons.mpr ⟨List.not_mem_nil, List.nodup_nil⟩
  refine ⟨[(name, value)], some obstacle, .blocked hbefore hinstall, hnodup,
    fun other hother => ?_, fun obstacle' hobstacle => ?_⟩
  · rw [List.mem_singleton.mp hother]
    exact hname
  · rw [Option.some.inj hobstacle]

/-- Where nothing was in the way, the row goes through. -/
theorem accepted {result : Result α} (h : WritesOnce r names w result)
    (hok : isBlocked result = false) :
    ∃ t, Writes r t none w result.1 ∧ t.names.Nodup ∧ ∀ name ∈ t.names, name ∈ names := by
  obtain ⟨t, obstacle?, hwrites, hnodup, hmem, hblocked⟩ := h
  obtain rfl := eq_none_of_accepted hblocked hok
  exact ⟨t, hwrites, hnodup, hmem⟩

/-- The module and the aliases of the registry are all that matters of it. -/
theorem congr {r' : Registry} {result : Result α} (h : WritesOnce r' names w result)
    (hhome : r.home = r'.home) (haliases : r.aliases = r'.aliases) :
    WritesOnce r names w result := by
  obtain ⟨t, obstacle?, hwrites, hrest⟩ := h
  exact ⟨t, obstacle?, hwrites.congr hhome haliases, hrest⟩

/-- What is made of an answer does not matter. -/
theorem map {β : Type} {result : Result α} (h : WritesOnce r names w result) (f : α → β) :
    WritesOnce r names w (result.1, result.2.map f) := by
  obtain ⟨t, obstacle?, hwrites, hnodup, hmem, hblocked⟩ := h
  refine ⟨t, obstacle?, hwrites, hnodup, hmem, fun obstacle hobstacle => ?_⟩
  show result.2.map f = _
  rw [hblocked obstacle hobstacle]
  rfl

end WritesOnce

theorem mock_writes (w : World) (id : RegistryId) (name : String) (standIn : Option Object) :
    WritesOnce (w.registry id) [name] w (w.mock id name standIn) := by
  obtain ⟨w₀, hbefore, -, ⟨e, hmock⟩ | ⟨p, o, w', obstacle?, -, hinstall, hmock⟩⟩ :=
    mock_cases w id name standIn
  all_goals rw [hmock]
  · exact .quiet hbefore _
  · have hrecorded : Within (fun _ => False) w
        (w₀.setRegistry id ((w.registry id).putReplaced name p)) :=
      hbefore.trans (.of_space_eq _ rfl rfl)
    cases obstacle? with
    | some obstacle =>
        exact (WritesOnce.of_blocked List.mem_cons_self hrecorded hinstall).congr rfl rfl
    | none =>
        have hafter : Within (fun _ => False) w' w' := .refl _ w'
        exact (WritesOnce.of_install List.mem_cons_self hrecorded hinstall hafter _).congr rfl rfl

theorem unmock_writes (w : World) (id : RegistryId) (name : String) :
    WritesOnce (w.registry id) [name] w (w.unmock id name) := by
  obtain ⟨-, hunmock⟩ | ⟨p, w', obstacle?, -, hinstall, hunmock⟩ := unmock_cases w id name
  all_goals rw [hunmock]
  · exact .quiet (.refl _ w) _
  · cases obstacle? with
    | some obstacle => exact .of_blocked List.mem_cons_self (.refl _ w) hinstall
    | none =>
        have hafter : Within (fun _ => False) w'
            (w'.setRegistry id ((w.registry id).dropReplaced name)) := .of_space_eq _ rfl rfl
        exact .of_install List.mem_cons_self (.refl _ w) hinstall hafter _

theorem restore_writes (w : World) (id : RegistryId) (name : String) :
    WritesOnce (w.registry id) [name] w (w.restore id name) := by
  obtain ⟨-, hrestore⟩ | ⟨o, rest, w', obstacle?, -, hinstall, hrestore⟩ :=
    restore_cases w id name
  all_goals rw [hrestore]
  · exact .quiet (.refl _ w) _
  · have htaken : Within (fun _ => False) w
        (w.setRegistry id ((w.registry id).putSaved name rest)) := .of_space_eq _ rfl rfl
    cases obstacle? with
    | some obstacle =>
        exact (WritesOnce.of_blocked List.mem_cons_self htaken hinstall).congr rfl rfl
    | none =>
        have hafter : Within (fun _ => False) w' w' := .refl _ w'
        exact (WritesOnce.of_install List.mem_cons_self htaken hinstall hafter _).congr rfl rfl

/-- Replacing one name after another is a row of the first entries of the table. -/
theorem installAll_writes (r : Registry) (table : Table Object) (w : World) :
    ∃ t, Writes r t (installAll r table w).2 w (installAll r table w).1 ∧ t <+: table := by
  induction table generalizing w with
  | nil => exact ⟨[], .quiet (.refl _ w), List.prefix_refl []⟩
  | cons entry rest ih =>
      obtain ⟨name, value⟩ := entry
      rw [installAll]
      cases hinstall : w.install r name value with
      | mk w₁ obstacle? =>
          cases obstacle? with
          | none =>
              obtain ⟨t, hwrites, hfirst⟩ := ih w₁
              refine ⟨(name, value) :: t, .next (.refl _ w) hinstall hwrites, ?_⟩
              exact (List.prefix_cons_inj _).mpr hfirst
          | some obstacle =>
              refine ⟨[(name, value)], .blocked (.refl _ w) hinstall, ?_⟩
              exact (List.prefix_cons_inj _).mpr (List.nil_prefix)

theorem unmockAll_writes (w : World) (id : RegistryId)
    (hnodup : (w.registry id).replaced.names.Nodup) :
    WritesOnce (w.registry id) (w.registry id).replaced.names w (w.unmockAll id) := by
  obtain ⟨t, hwrites, hfirst⟩ := installAll_writes (w.registry id) (w.registry id).replaced w
  have hnames : t.names.Sublist (w.registry id).replaced.names :=
    (hfirst.map Prod.fst).sublist
  have hmem : ∀ name ∈ t.names, name ∈ (w.registry id).replaced.names :=
    fun name hname => hnames.subset hname
  obtain ⟨w', obstacle, hinstall, hunmock⟩ | ⟨w', hinstall, hunmock⟩ := unmockAll_cases w id
  all_goals
    rw [hinstall] at hwrites
    rw [hunmock]
  · refine ⟨t, some obstacle, hwrites, hnames.nodup hnodup, hmem, fun obstacle' hobstacle => ?_⟩
    rw [Option.some.inj hobstacle]
  · refine ⟨t, none, hwrites.after ?_, hnames.nodup hnodup, hmem, fun obstacle hobstacle => ?_⟩
    · exact .of_space_eq _ rfl rfl
    · cases hobstacle

/-- That a row consists of the oldest objects saved for names of a list, each name once, and, unless
something was in the way, of all of them. -/
structure Oldest (r : Registry) (names : List String) (t : Table Object)
    (obstacle? : Option Obstacle) : Prop where
  nodup : t.names.Nodup
  mem : ∀ entry ∈ t, entry.1 ∈ names ∧ (r.savedOf entry.1).getLast? = some entry.2
  all : obstacle? = none → ∀ name ∈ names, ∀ o, (r.savedOf name).getLast? = some o → (name, o) ∈ t

namespace Oldest

variable {r : Registry} {k : String} {rest : List String} {oldest : Object} {t : Table Object}
  {obstacle? : Option Obstacle}

theorem nil (r : Registry) : Oldest r [] [] none := by
  refine ⟨List.nodup_nil, fun entry hentry => ?_, fun _ name hname => ?_⟩
  · exact absurd hentry List.not_mem_nil
  · exact absurd hname List.not_mem_nil

/-- A name for which nothing is saved is passed by. -/
theorem skip (hlast : (r.savedOf k).getLast? = none) (h : Oldest r rest t obstacle?) :
    Oldest r (k :: rest) t obstacle? := by
  refine ⟨h.nodup, fun entry hentry => ?_, fun hnone name hname o ho => ?_⟩
  · exact (h.mem entry hentry).imp_left (List.mem_cons_of_mem k)
  · rcases List.mem_cons.mp hname with rfl | hname
    · rw [hlast] at ho
      cases ho
    · exact h.all hnone name hname o ho

/-- Where something is in the way the row ends. -/
theorem blocked (hlast : (r.savedOf k).getLast? = some oldest) (obstacle : Obstacle) :
    Oldest r (k :: rest) [(k, oldest)] (some obstacle) := by
  refine ⟨List.nodup_cons.mpr ⟨List.not_mem_nil, List.nodup_nil⟩, fun entry hentry => ?_,
    fun hnone => ?_⟩
  · rw [List.mem_singleton.mp hentry]
    exact ⟨List.mem_cons_self, hlast⟩
  · cases hnone

/-- After a name was restored nothing is saved for it, so that it does not come again. -/
theorem cons (hlast : (r.savedOf k).getLast? = some oldest)
    (h : Oldest (r.putSaved k []) rest t obstacle?) :
    Oldest r (k :: rest) ((k, oldest) :: t) obstacle? := by
  have hk : ∀ entry ∈ t, entry.1 ≠ k := by
    intro entry hentry hc
    have hvalue := (h.mem entry hentry).2
    rw [Registry.savedOf_putSaved, if_pos hc] at hvalue
    cases hvalue
  refine ⟨?_, fun entry hentry => ?_, fun hnone name hname o ho => ?_⟩
  · refine List.nodup_cons.mpr ⟨fun hc => ?_, h.nodup⟩
    obtain ⟨entry, hentry, hname⟩ := List.mem_map.mp hc
    exact hk entry hentry hname
  · rcases List.mem_cons.mp hentry with rfl | hentry
    · exact ⟨List.mem_cons_self, hlast⟩
    · obtain ⟨hin, hvalue⟩ := h.mem entry hentry
      rw [Registry.savedOf_putSaved, if_neg (hk entry hentry)] at hvalue
      exact ⟨List.mem_cons_of_mem k hin, hvalue⟩
  · by_cases hnk : name = k
    · rw [hnk, hlast] at ho
      rw [hnk, Option.some.inj ho]
      exact List.mem_cons_self
    · have hin : name ∈ rest := (List.mem_cons.mp hname).resolve_left hnk
      refine List.mem_cons_of_mem _ (h.all hnone name hin o ?_)
      rw [Registry.savedOf_putSaved, if_neg hnk]
      exact ho

end Oldest

/-- Restoring the names of a list is a row of the oldest objects saved for them. -/
theorem restoreEach_writes (id : RegistryId) (names : List String) (w : World) :
    ∃ t obstacle?, Writes (w.registry id) t obstacle? w (restoreEach id names w).1 ∧
      Oldest (w.registry id) names t obstacle? ∧
      ∀ obstacle, obstacle? = some obstacle →
        (restoreEach id names w).2 = .error (.blocked obstacle) := by
  induction names generalizing w with
  | nil =>
      refine ⟨[], none, .quiet (.refl _ w), .nil _, fun obstacle hobstacle => ?_⟩
      cases hobstacle
  | cons k rest ih =>
      obtain ⟨hunsaved, hstep⟩ | ⟨oldest, w₁, obstacle, hlast, hinstall, hstep⟩ |
        ⟨oldest, w₁, hlast, hinstall, hstep⟩ := restoreEach_cases w id k rest
      all_goals rw [hstep]
      · obtain ⟨t, obstacle?, hwrites, holdest, hblocked⟩ := ih w
        exact ⟨t, obstacle?, hwrites, holdest.skip (List.getLast?_eq_none_iff.mpr hunsaved),
          hblocked⟩
      · refine ⟨[(k, oldest)], some obstacle, .blocked (.refl _ w) hinstall,
          .blocked hlast obstacle, fun obstacle' hobstacle => ?_⟩
        rw [Option.some.inj hobstacle]
      · have hquiet : Within (fun _ => False) w₁
            (w₁.setRegistry id ((w.registry id).putSaved k [])) :=
          .of_space_eq _ rfl rfl
        have hr : (w₁.setRegistry id ((w.registry id).putSaved k [])).registry id =
            (w.registry id).putSaved k [] := by
          rw [registry_setRegistry, if_pos rfl]
        obtain ⟨t, obstacle?, hwrites, holdest, hblocked⟩ :=
          ih (w₁.setRegistry id ((w.registry id).putSaved k []))
        rw [hr] at hwrites holdest
        -- The rest of the row starts at the new record, which says the same of where to write.
        have hwrites' : Writes (w.registry id) t obstacle? w₁ _ :=
          .before hquiet (hwrites.congr rfl rfl)
        exact ⟨(k, oldest) :: t, obstacle?, .next (.refl _ w) hinstall hwrites',
          holdest.cons hlast, hblocked⟩

/-- **The row of an operation.**  A registry records a name once, as every table has a name once. -/
theorem perform_writes (w : World) (id : RegistryId) (op : Operation)
    (hnodup : (w.registry id).replaced.names.Nodup) :
    WritesOnce (w.registry id) (op.writes (w.registry id)) w (w.perform id op) := by
  cases op with
  | mock name standIn => exact (mock_writes w id name standIn).map some
  | unmock name => exact (unmock_writes w id name).map some
  | unmockAll => exact (unmockAll_writes w id hnodup).map fun _ => none
  | reset name =>
      exact .quiet (reset_within (fun _ => False) w id name).1 _
  | resetAll =>
      exact .quiet (resetEach_within (fun _ => False) (w.registry id) _ w).1 _
  | save name => exact .quiet (save_effect (fun _ => False) w id name).toWithin _
  | restore name => exact (restore_writes w id name).map some
  | saveAll =>
      exact .quiet (saveEach_effect (fun _ => False) id (w.registry id).mutables w).toWithin _
  | restoreAll =>
      obtain ⟨t, obstacle?, hwrites, holdest, hblocked⟩ :=
        restoreEach_writes id (w.registry id).mutables w
      have hrestore : WritesOnce (w.registry id) (w.registry id).mutables w (w.restoreAll id) := by
        refine ⟨t, obstacle?, hwrites, holdest.nodup, fun name hname => ?_, hblocked⟩
        obtain ⟨entry, hentry, rfl⟩ := List.mem_map.mp hname
        exact (holdest.mem entry hentry).1
      exact hrestore.map fun _ => none
  | addAlias s =>
      have hquiet : Within (fun _ => False) w (w.addAlias id s) := .of_space_eq _ rfl rfl
      exact .quiet hquiet _

/-! ## The cells of an operation -/

/-- **The footprint of an operation**, whether it succeeds or fails, a replacement that ends
half-way included.  The records of all other registries are untouched.  A cell that holds or shows
something else afterwards is under one of the names that the operation writes, and it is in the
module's own space, in an alias, or in a package around the module: by the name that the module had,
or, if the operation writes that too, by the one that it has.  An operation that writes no name
(saving, resetting, adding an alias) changes no cell, and asking whether a name is mocked only looks
at the record.  And nothing becomes readable in a space where it was not, or unreadable where it
was.  A registry records a name once. -/
theorem perform_footprint (w : World) (id : RegistryId) (op : Operation)
    (hnodup : (w.registry id).replaced.names.Nodup) :
    let r := w.registry id
    let w' := (w.perform id op).1
    (∀ j, j ≠ id → w'.registry j = w.registry j) ∧
      (∀ s name, w'.own s name ≠ w.own s name ∨ w'.read s name ≠ w.read s name →
        name ∈ op.writes r ∧ (s ∈ w.targets r ∨ nameKey ∈ op.writes r ∧ s ∈ w'.ancestors r)) ∧
      (op.writes r = [] → ∀ s name, w'.own s name = w.own s name) ∧
      ∀ s name, (w'.read s name).isSome = (w.read s name).isSome := by
  intro r w'
  have heffect := perform_effect w id op
  obtain ⟨t, obstacle?, hwrites, hrow, hmem, -⟩ := perform_writes w id op hnodup
  have hcells : ∀ s name, w'.own s name ≠ w.own s name →
      name ∈ op.writes r ∧ (s ∈ w.targets r ∨ nameKey ∈ op.writes r ∧ s ∈ w'.ancestors r) := by
    intro s name hne
    obtain ⟨hname, hs⟩ := hwrites.mem_of_own_ne hrow hne
    exact ⟨hmem name hname, hs.imp_right (And.imp_left (hmem nameKey))⟩
  refine ⟨heffect.others, fun s name hne => hcells s name ?_, fun hnone s name => ?_,
    hwrites.isSome_read⟩
  · -- What a space shows changes only with what it holds.
    intro hown
    exact hne.elim (fun h => h hown) fun h => h (read_congr hown (heffect.inherited s))
  · refine heffect.own s name ?_
    show name ∉ op.writes r
    rw [hnone]
    exact List.not_mem_nil

/-- A mock that a frozen alias refuses half-way: the module has the stand-in, the package has not,
and all else is as it was. -/
theorem perform_footprint_birdhouse :
    let w := (birdhouse.setSpace 2 ⟨[("fetch", fetch)], [], some .frozen⟩).addAlias 0 2
    let result := w.perform 0 (.mock "fetch" (some (.item 9 .resettable)))
    result.2 = .error (.blocked (.refused .frozen)) ∧
      result.1.read 0 "fetch" = some (.held (.item 9 .resettable)) ∧
      result.1.read 1 "fetch" = some (.held fetch) ∧ result.1.registry 1 = w.registry 1 ∧
      (∀ s, result.1.read s "helper" = w.read s "helper") ∧
      ∀ s name, (result.1.read s name).isSome = (w.read s name).isSome := by
  obtain ⟨hothers, hcells, -, hreadable⟩ := perform_footprint
    ((birdhouse.setSpace 2 ⟨[("fetch", fetch)], [], some .frozen⟩).addAlias 0 2) 0
    (.mock "fetch" (some (.item 9 .resettable))) (by decide)
  refine ⟨rfl, by decide, by decide, hothers 1 (by decide), fun s => ?_, hreadable⟩
  refine Classical.byContradiction fun hne => ?_
  exact absurd (hcells s "helper" (.inr hne)).1 (by decide)

end Standin.World
