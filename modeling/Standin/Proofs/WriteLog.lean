/-
The log of a replacement.

Every write of a registry is noted, so that the log tells not only which cells have changed
but in which order they were written, and how often.  A name that the module holds is written
in the module first; then in the aliases, in the order in which they were added; then, unless
a scalar is replaced, in the packages around the module, the nearest first.  Those spaces are
written that read what the module held before.  A name that the module does not hold is written
in all aliases that read it, and in no package.

All this is about a module that is named, or in which no package is looked for.  In another one the
log ends where the module itself is written.

A space may come more than once: as two aliases, as an alias and a package, as the module's own
space.  Once written it reads the new object and is passed by, unless that is the very object
that it replaces.  So the log has each space once, where it comes first.

The log is found by going along the list of spaces (`events_sync`), where all that matters is
whether a space that was written awaits the object still (`awaits_assign`).  Mocking, unmocking
and restoring a name come to one replacement each (`replacement_of_not_declined`), and so they
have its log (`perform_log`).
-/
import Standin.Proofs.AliasOnly

set_option autoImplicit false

namespace Standin.World

/-! ## Going along a list -/

/-- The writes of an object under a name to spaces as such, in order. -/
def writesTo (name : String) (value : Object) (spaces : List SpaceId) : List Event :=
  spaces.map fun s => .write s name value false

/-- What is left of a list when repetitions are left out has each of its members once. -/
theorem nodup_eraseDups : ∀ spaces : List SpaceId, spaces.eraseDups.Nodup
  | [] => List.nodup_nil
  | s :: spaces => by
      rw [List.eraseDups_cons, List.nodup_cons]
      exact ⟨by simp, nodup_eraseDups _⟩
termination_by spaces => spaces.length
decreasing_by exact Nat.lt_succ_of_le (List.length_filter_le _ _)

section Sync

variable {w w₁ : World} {name : String} {value : Object} {expected : Option Object} {s : SpaceId}

/-- **After a write** the same spaces await the object, except that the written one does so only if
it was given what is awaited. -/
theorem awaits_assign {own : Bool} (hassign : w.assign own s name value = .ok w₁)
    (hawaits : w.Awaits name expected s) (t : SpaceId) :
    w₁.Awaits name expected t ↔
      w.Awaits name expected t ∧ (t = s → ∀ q ∈ expected, value = q) := by
  have hread := read_assign hassign t name
  by_cases hts : t = s
  · subst hts
    rw [if_pos ⟨rfl, rfl⟩] at hread
    rw [and_iff_right hawaits]
    unfold Awaits
    rw [hread]
    simp
  · rw [if_neg fun hc => hts hc.1] at hread
    rw [awaits_congr hread]
    exact (and_iff_left fun hc => absurd hc hts).symm

/-- A space that does not await the object is passed by. -/
theorem sync_of_not_awaits (hnot : ¬ w.Awaits name expected s) (rest : List SpaceId) :
    sync name value expected (s :: rest) w = sync name value expected rest w := by
  rw [sync]
  split
  · rfl
  · rename_i current hread
    exact if_neg fun hexpected => hnot ((awaits_iff_all hread).mpr hexpected)

/-- A space that awaits it and accepts is written. -/
theorem sync_of_awaits (hawaits : w.Awaits name expected s)
    (hassign : w.assign false s name value = .ok w₁) (rest : List SpaceId) :
    sync name value expected (s :: rest) w = sync name value expected rest w₁ := by
  obtain ⟨current, hread, -⟩ := id hawaits
  rw [sync, hread]
  dsimp only
  rw [if_pos ((awaits_iff_all hread).mp hawaits), hassign]

theorem events_assign {own : Bool} (h : w.assign own s name value = .ok w₁) :
    w₁.events = w.events ++ [.write s name value own] := by
  rw [assign_of_accepts (accepts_of_assign h)] at h
  cases h
  rfl

/-- The spaces of a list that are written, in order: those that await the object, each once, unless
what they are given is what they await. -/
def written (w : World) (name : String) (value : Object) (expected : Option Object)
    (spaces : List SpaceId) : List SpaceId :=
  let awaiting := spaces.filter (w.Awaits name expected ·)
  if ∀ q ∈ expected, value = q then awaiting else awaiting.eraseDups

/-- A space that awaits the object stands first, and comes again only if it awaits it still. -/
theorem written_cons_of_awaits {own : Bool} (hassign : w.assign own s name value = .ok w₁)
    (hawaits : w.Awaits name expected s) (rest : List SpaceId) :
    w.written name value expected (s :: rest) = s :: w₁.written name value expected rest := by
  have hawaits₁ := awaits_assign hassign hawaits
  unfold written
  rw [List.filter_cons_of_pos (p := (w.Awaits name expected ·)) (decide_eq_true hawaits)]
  split <;> rename_i hsame
  · refine congrArg (s :: ·) (List.filter_congr fun t _ => decide_eq_decide.mpr ?_)
    rw [hawaits₁ t, and_iff_left fun _ => hsame]
  · have hother : ∀ t, w₁.Awaits name expected t ↔ t ≠ s ∧ w.Awaits name expected t := by
      intro t
      rw [hawaits₁ t, and_comm]
      exact and_congr_left fun _ => imp_congr_right fun _ => iff_false_intro hsame
    rw [List.eraseDups_cons, List.filter_filter]
    refine congrArg (s :: ·.eraseDups) (List.filter_congr fun t _ => ?_)
    simp only [hother]
    by_cases hts : t = s <;> simp [hts]

theorem written_cons_of_not_awaits (hnot : ¬ w.Awaits name expected s) (rest : List SpaceId) :
    w.written name value expected (s :: rest) = w.written name value expected rest := by
  unfold written
  rw [List.filter_cons_of_neg (p := (w.Awaits name expected ·)) (by simpa using hnot)]

/-- **The log of going along a list**, where the spaces that await the object accept. -/
theorem events_sync (spaces : List SpaceId) (w : World)
    (haccept : ∀ s ∈ spaces, w.Awaits name expected s → w.Accepts s) :
    (sync name value expected spaces w).1.events =
      w.events ++ writesTo name value (w.written name value expected spaces) := by
  induction spaces generalizing w with
  | nil => simp [sync, written, writesTo]
  | cons s rest ih =>
      have hrest := fun t ht => haccept t (List.mem_cons_of_mem s ht)
      by_cases hawaits : w.Awaits name expected s
      · have hassign := assign_of_accepts (haccept s List.mem_cons_self hawaits) false name value
        generalize (w.put s name value).note (.write s name value false) = w₁ at hassign
        rw [sync_of_awaits hawaits hassign, ih w₁ fun t ht hawait =>
          (assign_within hassign).accepts
            (hrest t ht ((awaits_assign hassign hawaits t).mp hawait).1),
          events_assign hassign, written_cons_of_awaits hassign hawaits, List.append_assoc]
        rfl
      · rw [sync_of_not_awaits hawaits, ih w hrest, written_cons_of_not_awaits hawaits]

end Sync

/-! ## Replacing a name -/

/-- The aliases that read a name, in order. -/
def readers (w : World) (r : Registry) (name : String) : List SpaceId :=
  r.aliases.filter fun s => (w.read s name).isSome

/-- The spaces other than the module's own that follow it from an object that it holds: first the
aliases in order, then, unless the object is a scalar, the packages around, the nearest first, as
far as they read this very object; each where it comes first, and only there. -/
def followers (w : World) (r : Registry) (name : String) (p : Object) : List SpaceId :=
  ((r.aliases ++ if p.isScalar then [] else w.ancestors r).filter fun s =>
    s ≠ r.home ∧ w.read s name = some (.held p)).eraseDups

section Install

variable {w : World} {r : Registry} {name : String} {value p : Object}

theorem nodup_home_followers : (r.home :: w.followers r name p).Nodup := by
  refine List.nodup_cons.mpr ⟨fun hmem => ?_, nodup_eraseDups _⟩
  unfold followers at hmem
  rw [List.mem_eraseDups, List.mem_filter] at hmem
  exact (of_decide_eq_true hmem.2).1 rfl

/-- The log where the module does not hold the name. -/
theorem events_install_of_not_own (hown : w.own r.home name = none)
    (haccept : ∀ s, w.Follows r name s → w.Accepts s) :
    (w.install r name value).1.events =
      w.events ++ writesTo name value (w.readers r name) := by
  have hreaders : w.written name value none r.aliases = w.readers r name := by
    unfold written readers
    rw [if_pos fun q hq => absurd hq (Option.not_mem_none q)]
    exact List.filter_congr fun s _ => by simp [awaits_none_iff]
  rw [install_of_not_own hown]
  refine (events_sync _ _ fun s hs hawaits => haccept s ?_).trans (by rw [hreaders])
  exact (follows_of_not_own hown s).mpr ⟨hs, awaits_none_iff.mp hawaits⟩

/-- The log where it holds another object than it is given. -/
theorem events_install_of_own (hname : name ≠ nameKey) (hown : w.own r.home name = some p)
    (hnamed : p.isScalar = false → w.Named r) (hne : value ≠ p)
    (haccept : ∀ s, w.Follows r name s → w.Accepts s) :
    (w.install r name value).1.events = w.events ++
      .write r.home name value true :: writesTo name value (w.followers r name p) := by
  have hhome : w.Awaits name (some p) r.home := awaits_some_iff.mpr (read_of_own hown)
  have hassign := assign_of_accepts
    (haccept r.home ((follows_of_own hown _).mpr (.inl rfl))) true name value
  generalize (w.put r.home name value).note (.write r.home name value true) = w₁ at hassign
  have hpackages : w₁.packagesFor r p = .ok (if p.isScalar then [] else w.ancestors r) := by
    have hwithin := assign_within hassign
    rw [packagesFor_of_named fun hscalar => hwithin.named hname.symm rfl (hnamed hscalar),
      hwithin.ancestors hname.symm rfl]
  -- What awaits the object after the module was written is not the module.
  have hawaits : ∀ s, w₁.Awaits name (some p) s ↔ s ≠ r.home ∧ w.read s name = some (.held p) := by
    intro s
    rw [awaits_assign hassign hhome, awaits_some_iff, and_comm]
    simp [hne]
  have hfollowers : w₁.written name value (some p)
      (r.aliases ++ if p.isScalar then [] else w.ancestors r) = w.followers r name p := by
    unfold written followers
    rw [if_neg fun hsame => hne (hsame p rfl)]
    exact congrArg List.eraseDups (List.filter_congr fun s _ => decide_eq_decide.mpr (hawaits s))
  rw [install_of_found hown hassign hpackages]
  refine (events_sync _ _ fun s hs hawait => ?_).trans ?_
  · refine (assign_within hassign).accepts (haccept s ((follows_of_own hown s).mpr (.inr ⟨?_, ?_⟩)))
    · cases hscalar : p.isScalar <;> simpa [hscalar] using hs
    · exact ((hawaits s).mp hawait).2
  · rw [events_assign hassign, hfollowers, List.append_assoc]
    rfl

/-- **After a replacement** the registry sees the new object, if it saw any before. -/
theorem valueOf_of_wrote {w' : World} {r' : Registry}
    (hwrote : Wrote w w' name value (w.Follows r name)) (hhome : r'.home = r.home)
    (haliases : ∀ s, s ∈ r'.aliases ↔ s ∈ r.aliases) (hbound : w.Bound r name) :
    w'.valueOf r' name = some (.held value) := by
  refine valueOf_of_given hwrote hhome haliases (fun hsome => ?_)
    (fun hown s => follows_of_not_own hown s) (isSome_valueOf_iff.mpr hbound)
  obtain ⟨p, hp⟩ := Option.isSome_iff_exists.mp hsome
  exact (follows_of_own hp _).mpr (.inl rfl)

end Install

/-! ## Mocking, unmocking, restoring -/

/-- `w'` is `w` except for the records of registries and the number of the next new object. -/
structure Recorded (w w' : World) : Prop where
  space : w'.space = w.space
  loaded : w'.loaded = w.loaded
  events : w'.events = w.events

namespace Recorded

variable {w w' : World} {r : Registry} {name : String}

theorem refl (w : World) : Recorded w w := ⟨rfl, rfl, rfl⟩

theorem within (h : Recorded w w') : Within (fun _ => False) w w' :=
  .of_space_eq _ h.space h.loaded

theorem follows_iff (h : Recorded w w') (s : SpaceId) :
    w'.Follows r name s ↔ w.Follows r name s :=
  h.within.follows_iff not_false not_false rfl rfl s

theorem own_eq (h : Recorded w w') (s : SpaceId) : w'.own s name = w.own s name := by
  unfold own
  rw [h.space]

theorem valueOf_eq (h : Recorded w w') : w'.valueOf r name = w.valueOf r name := by
  unfold valueOf readFirst own read
  rw [h.space]

theorem readers_eq (h : Recorded w w') : w'.readers r name = w.readers r name := by
  unfold readers
  simp only [h.within.read _ not_false]

theorem followers_eq (h : Recorded w w') (p : Object) :
    w'.followers r name p = w.followers r name p := by
  unfold followers
  simp only [h.within.read _ not_false, h.within.ancestors not_false rfl]

end Recorded

/-- That an object is the one that an operation puts in place, as far as it does not come from the
factory: the given stand-in, the object that was replaced, the one that was saved last. -/
def Puts (r : Registry) (value : Object) : Operation → Prop
  | .mock _ standIn => ∀ x ∈ standIn, value = x
  | .unmock name => r.replaced.get? name = some value
  | .restore name => (r.savedOf name).head? = some value
  | _ => False

/-- That an operation on a name is one replacement: an object is put in place, and all else that
happens is that something is recorded or an object is made. -/
def IsReplacement (w : World) (id : RegistryId) (name : String) (op : Operation) : Prop :=
  ∃ value w₀, Puts (w.registry id) value op ∧ Recorded w w₀ ∧
    ∀ w₁, w₀.install (w.registry id) name value = (w₁, none) →
      ∃ w', w.perform id op = (w', .ok (some value)) ∧ Recorded w₁ w'

section IsReplacement

variable {w : World} {id : RegistryId} {name : String}

theorem isReplacement_mock {standIn : Option Object}
    (hnot : ∀ f, ¬ w.Declines (w.registry id) (.mock name standIn) f) :
    w.IsReplacement id name (.mock name standIn) := by
  obtain ⟨f, w₀, hdeclines, -⟩ | ⟨-, w₀, p, x, w', obstacle?, hw₀, -, hgiven, hinstall, hmock⟩ :=
    mock_outcome w id name standIn
  · exact absurd hdeclines (hnot f)
  · have hrecorded : Recorded w (w₀.setRegistry id ((w.registry id).putReplaced name p)) := by
      obtain ⟨n, rfl⟩ := hw₀
      exact ⟨rfl, rfl, rfl⟩
    refine ⟨x, _, hgiven, hrecorded, fun w₁ hinstall₁ => ⟨w₁, ?_, .refl w₁⟩⟩
    -- What is on record says nothing of where to write, so this is the same replacement.
    obtain ⟨rfl, rfl⟩ := Prod.mk.inj
      (hinstall.symm.trans ((install_congr rfl rfl).trans hinstall₁))
    exact congrArg answering hmock

theorem isReplacement_unmock (hnot : ∀ f, ¬ w.Declines (w.registry id) (.unmock name) f) :
    w.IsReplacement id name (.unmock name) := by
  obtain ⟨hmocked, -⟩ | ⟨p, w', obstacle?, hmocked, hinstall, hunmock⟩ := unmock_cases w id name
  · exact absurd (.nothingToUnmock (isMocked_eq_false_iff.mpr hmocked)) (hnot _)
  · -- The record is cleared afterwards.
    refine ⟨p, w, hmocked, .refl w, fun w₁ hinstall₁ =>
      ⟨w₁.setRegistry id ((w.registry id).dropReplaced name), ?_, rfl, rfl, rfl⟩⟩
    obtain ⟨rfl, rfl⟩ := Prod.mk.inj (hinstall.symm.trans hinstall₁)
    exact congrArg answering hunmock

theorem isReplacement_restore (hnot : ∀ f, ¬ w.Declines (w.registry id) (.restore name) f) :
    w.IsReplacement id name (.restore name) := by
  obtain ⟨hsaved, -⟩ | ⟨o, older, w', obstacle?, hsaved, hinstall, hrestore⟩ :=
    restore_cases w id name
  · exact absurd (.nothingToRestore hsaved) (hnot _)
  · have hputs : Puts (w.registry id) o (.restore name) := by
      show ((w.registry id).savedOf name).head? = some o
      rw [hsaved]
      rfl
    refine ⟨o, w.setRegistry id ((w.registry id).putSaved name older), hputs, ⟨rfl, rfl, rfl⟩,
      fun w₁ hinstall₁ => ⟨w₁, ?_, .refl w₁⟩⟩
    obtain ⟨rfl, rfl⟩ := Prod.mk.inj
      (hinstall.symm.trans ((install_congr rfl rfl).trans hinstall₁))
    exact congrArg answering hrestore

end IsReplacement

/-- **Mocking, unmocking or restoring a name**, when it is not declined, is one replacement. -/
theorem replacement_of_not_declined {w : World} {id : RegistryId} {name : String} {op : Operation}
    (hop : (∃ standIn, op = .mock name standIn) ∨ op = .unmock name ∨ op = .restore name)
    (hnot : ∀ f, ¬ w.Declines (w.registry id) op f) : w.IsReplacement id name op := by
  rcases hop with ⟨standIn, rfl⟩ | rfl | rfl
  · exact isReplacement_mock hnot
  · exact isReplacement_unmock hnot
  · exact isReplacement_restore hnot

/-- **The log of mocking, unmocking or restoring a name**, which is not that of the module.  The
operation is not declined, and the spaces that follow accept; a module that holds an object under
the name that is no scalar is named.  Then it succeeds and puts an object in place.  If the module
holds the name, and not that very object, the writes are these, in order: the module, then the
aliases that read what the module held, then, unless that was a scalar, the packages that read it,
each space once.  If the module does not hold the name, they are the aliases that read it, and no
package.  No cell changes but those that are written, and if the name was bound, the registry reads
the object under it. -/
theorem perform_log (w : World) (id : RegistryId) (name : String) (op : Operation)
    (hop : (∃ standIn, op = .mock name standIn) ∨ op = .unmock name ∨ op = .restore name)
    (hname : name ≠ nameKey) (hnot : ∀ f, ¬ w.Declines (w.registry id) op f)
    (hnamed : ∀ p ∈ w.own (w.registry id).home name, p.isScalar = false → w.Named (w.registry id))
    (haccept : ∀ s, w.Follows (w.registry id) name s → w.Accepts s) :
    let r := w.registry id
    let w' := (w.perform id op).1
    ∃ value, Puts r value op ∧ (w.perform id op).2 = .ok (some value) ∧
      (∀ p, w.own r.home name = some p → value ≠ p →
        w'.events = w.events ++
            .write r.home name value true :: writesTo name value (w.followers r name p) ∧
          (r.home :: w.followers r name p).Nodup) ∧
      (w.own r.home name = none →
        w'.events = w.events ++ writesTo name value (w.readers r name)) ∧
      (∀ s other, w'.own s other =
        if other = name ∧ w.Follows r name s then some value else w.own s other) ∧
      (w.Bound r name → w'.valueOf (w'.registry id) name = some (.held value)) := by
  intro r w'
  obtain ⟨value, w₀, hputs, hbefore, hperform⟩ := replacement_of_not_declined hop hnot
  -- What is recorded before the replacement does not change which spaces follow.
  have haccept₀ : ∀ s, w₀.Follows r name s → w₀.Accepts s := fun s hs =>
    hbefore.within.accepts (haccept s ((hbefore.follows_iff s).mp hs))
  have hnamed₀ : ∀ p, w₀.own r.home name = some p → p.isScalar = false → w₀.Named r :=
    fun p hown hscalar => hbefore.within.named not_false rfl
      (hnamed p ((hbefore.own_eq _).symm.trans hown) hscalar)
  obtain ⟨w₁, hinstall, hreceived⟩ := install_received
    (fun p hown hscalar => (misnomer_put hname).trans (hnamed₀ p hown hscalar))
    fun s hs => haccept₀ s ((receives_iff_follows hname s).mp hs)
  have hwrote : Wrote w₀ w₁ name value (w₀.Follows r name) :=
    hreceived.congr (receives_iff_follows hname)
  obtain ⟨w₂, hresult, hafter⟩ := hperform w₁ hinstall
  have hw' : w' = w₂ := congrArg Prod.fst hresult
  have hlog : w'.events = (w₀.install r name value).1.events := by
    rw [hw', hafter.events, hinstall]
  refine ⟨value, hputs, congrArg Prod.snd hresult, fun p hown hne => ⟨?_, nodup_home_followers⟩,
    fun hown => ?_, fun s other => ?_, fun hbound => ?_⟩
  · have hown₀ : w₀.own r.home name = some p := (hbefore.own_eq _).trans hown
    rw [hlog, events_install_of_own hname hown₀ (hnamed₀ p hown₀) hne haccept₀, hbefore.events,
      hbefore.followers_eq]
  · rw [hlog, events_install_of_not_own ((hbefore.own_eq _).trans hown) haccept₀, hbefore.events,
      hbefore.readers_eq]
  · rw [hw', hafter.own_eq]
    split <;> rename_i hs
    · rw [hs.1]
      exact hwrote.gets s ((hbefore.follows_iff s).mpr hs.2)
    · rw [← hbefore.own_eq s]
      by_cases hother : other = name
      · rw [hother] at hs ⊢
        exact hwrote.stays s fun hc => hs ⟨rfl, (hbefore.follows_iff s).mp hc⟩
      · exact hwrote.own s other hother
  · -- None of these operations adds an alias.
    have hconfined := perform_confined w id op
    have haliases : ∀ s, s ∈ (w'.registry id).aliases ↔ s ∈ r.aliases := by
      intro s
      refine ⟨fun hs => (hconfined.added s hs).resolve_right fun hadded => ?_, hconfined.aliases s⟩
      rcases hop with ⟨standIn, rfl⟩ | rfl | rfl <;> exact Option.not_mem_none s hadded
    have hbound₀ : w₀.Bound r name := by
      rw [← isSome_valueOf_iff, hbefore.valueOf_eq, isSome_valueOf_iff]
      exact hbound
    rw [show w'.valueOf (w'.registry id) name = w₁.valueOf (w'.registry id) name by
      rw [hw', hafter.valueOf_eq]]
    exact valueOf_of_wrote hwrote hconfined.home haliases hbound₀

/-- The module's own space and the package are aliases too, and stand once in the log all the same.
A name that only two aliases have is written in both, and in no package. -/
theorem perform_log_birdhouse :
    let x : Object := .item 9 .resettable
    let w := ((birdhouse.addAlias 0 2).addAlias 0 0).addAlias 0 1
    let w' := (w.perform 0 (.mock "fetch" (some x))).1
    let perch := perched (.item 7 .plain) (.item 8 .plain)
    w'.events =
        [.write 0 "fetch" x true, .write 2 "fetch" x false, .write 1 "fetch" x false] ∧
      w'.valueOf (w'.registry 0) "fetch" = some (.held x) ∧
      (perch.perform 0 (.mock "perch" (some x))).1.events =
        [.write 2 "perch" x false, .write 3 "perch" x false] := by
  intro x w w' perch
  have haccept : ∀ s ∈ w.targets (w.registry 0), w.Accepts s := by decide +kernel
  have haccept' : ∀ s ∈ perch.targets (perch.registry 0), perch.Accepts s := by decide +kernel
  obtain ⟨value, hputs, -, hlog, -, -, hvalue⟩ := perform_log w 0 "fetch" (.mock "fetch" (some x))
    (.inl ⟨_, rfl⟩) (by decide) (not_declines_given rfl (.inl (by decide)))
    (fun _ _ _ => by decide) fun s hs => haccept s (mem_targets_of_follows hs)
  obtain ⟨value', hputs', -, -, hlog', -, -⟩ := perform_log perch 0 "perch"
    (.mock "perch" (some x)) (.inl ⟨_, rfl⟩) (by decide)
    (not_declines_given rfl (.inr ⟨2, by decide, by decide⟩))
    (fun _ _ _ => by decide) fun s hs => haccept' s (mem_targets_of_follows hs)
  obtain rfl : value = x := hputs x rfl
  obtain rfl : value' = x := hputs' x rfl
  have hfollowers : w.followers (w.registry 0) "fetch" fetch = [2, 1] := by decide +kernel
  have hreaders : perch.readers (perch.registry 0) "perch" = [2, 3] := by decide
  refine ⟨(hlog fetch (by decide) (by decide)).1.trans ?_,
    hvalue (.inl (by decide)), (hlog' (by decide)).trans ?_⟩
  · rw [hfollowers]
    rfl
  · rw [hreaders]
    rfl

/-- In a module that is not named, the log ends too soon: an alias that is in step is left out. -/
theorem not_logged_of_misnamed :
    ¬ ∀ (w : World) (id : RegistryId) (name : String) (x p : Object), name ≠ nameKey →
      (w.registry id).isMocked name = false → w.own (w.registry id).home name = some p → x ≠ p →
      (∀ s, w.Follows (w.registry id) name s → w.Accepts s) →
      (w.mock id name (some x)).1.events = w.events ++ .write (w.registry id).home name x true ::
        writesTo name x (w.followers (w.registry id) name p) := by
  intro h
  let w := misnamedBirdhouse.addAlias 0 2
  have haccept : ∀ s ∈ w.targets (w.registry 0), w.Accepts s := by decide +kernel
  have hlog := h w 0 "fetch" (.item 8 .resettable) fetch (by decide) (by decide)
    (by decide) (by decide) fun s hs => haccept s (mem_targets_of_follows hs)
  exact absurd hlog (by decide +kernel)

end Standin.World
