/-
Loading other modules keeps memories in tandem.

A module is discreet if nothing that runs in it asks another module for the marker.  A disk
is discreet if every module that can be read on it is, and if no module can be found whose
own name would take the place of the marker, or of what the registry's statement needs, in
its package: a package is given its submodules under their names.

Opening keeps a module discreet (`discreet_openTree`), so it does not matter which modules on
the disk are opened as well.  Modules that are loaded get spaces of their own, where it is
enough to be discreet (`Source.Node.Discreet.spares`), and so loading on a discreet disk keeps
memories alike, by induction on how deep imports may still go (`keepsAlike_load`).
-/
import Standin.Proofs.Executing
import Standin.Proofs.Opened

set_option autoImplicit false

namespace Standin

open Source

/-! ## Discreet modules -/

namespace Source

/-- That nothing that runs in a node asks a module for the marker. -/
def Node.Discreet (n : Node) : Prop := n.Every Node.running fun m => markerName ∉ m.asked

instance : DecidablePred Node.Discreet := fun n =>
  inferInstanceAs (Decidable (n.Every Node.running fun m => markerName ∉ m.asked))

/-- That no statement of a module asks another module for the marker when it is run. -/
def Module.Discreet (m : Module) : Prop := ∀ s ∈ m.body, (Node.stmt s).Discreet

instance : DecidablePred Module.Discreet := fun m =>
  inferInstanceAs (Decidable (∀ s ∈ m.body, (Node.stmt s).Discreet))

end Source

section Discreet

variable {c : Pairing}

/-- Away from the place where memories may differ it is enough to be discreet. -/
theorem Source.Node.Discreet.spares {n : Node} (h : n.Discreet) {s : SpaceId}
    (hs : s ≠ c.home) : c.Spares s n :=
  h.imp fun _ hm => ⟨hm, fun hhome => absurd hhome hs⟩

theorem discreet_iff {n : Node} :
    n.Discreet ↔ markerName ∉ n.asked ∧ ∀ m ∈ n.running, m.Discreet :=
  Node.every_iff

/-- The class of registries is all that the statement that creates one asks a module for. -/
theorem discreet_registryStatement (bindings mutables : List String) (span : Span) :
    (Node.stmt (registryStatement bindings mutables span)).Discreet := by
  refine Node.Every.narrow ?_ Node.running_subset_children
  exact every_registryStatement (fun _ _ => List.not_mem_nil) (fun _ => List.not_mem_nil)
    (fun _ => List.not_mem_nil) (fun _ _ _ => List.not_mem_nil)
    (fun _ => show markerName ∉ ["Mockingbird"] by decide) (fun _ _ => List.not_mem_nil)
    (fun _ _ => List.not_mem_nil) _ _

/-- What runs of an opened declaration is what runs of the declaration. -/
theorem discreet_opensTo {bindings mutables : List String} {injected : Bool} {s s' : Stmt}
    (h : OpensTo bindings mutables injected s s') (hs : (Node.stmt s).Discreet) :
    (Node.stmt s').Discreet := by
  obtain ⟨-, rfl⟩ | ⟨-, -, rfl⟩ | ⟨-, ⟨target, hint, value, simple, span, rfl, hhint⟩, hopened⟩ :=
    opensTo_cases h
  · exact hs
  · exact discreet_registryStatement _ _ _
  · have hparts := (discreet_iff.mp hs).2
    obtain rfl | ⟨inner, rfl⟩ := openDeclaration_keeps hopened hhint
    · exact discreet_iff.mpr ⟨by simp [Node.asked], hparts⟩
    · exact discreet_iff.mpr ⟨by simp [Node.asked], hparts⟩

theorem discreet_openTree {tree : Module} {source : String} {o : Outcome}
    (h : openTree tree source = .ok o) (htree : tree.Discreet) : o.tree.Discreet := by
  by_cases hasks : asksToOpen source = true
  · obtain ⟨scope, body, injected, -, hbody, rfl⟩ := openTree_eq_ok hasks h
    intro s' hs'
    obtain ⟨_, s, hs, hopens⟩ := exists_mem_of_mem_opened hbody hs'
    exact discreet_opensTo hopens (htree s hs)
  · rw [openTree, if_neg hasks] at h
    cases h
    exact htree

end Discreet

/-! ## Discreet disks -/

namespace Disk

theorem mem_of_entryAt {d : Disk} {place : List String} {e : Entry}
    (h : d.entryAt place = some e) : (place, e) ∈ d.entries := by
  obtain ⟨⟨place', e'⟩, hfind, rfl⟩ := Option.map_eq_some_iff.mp h
  obtain rfl : place' = place := by simpa using List.find?_some hfind
  exact List.mem_of_find?_eq_some hfind

theorem mem_of_locateAlong {d : Disk} {jump : List String → Option Target}
    {here parts : List String} {bytes : List UInt8}
    (hjump : ∀ parts, jump parts = some (.file bytes) →
      ∃ place, (place, Entry.file bytes) ∈ d.entries)
    (h : d.locateAlong jump here parts = some (.file bytes)) :
    ∃ place, (place, Entry.file bytes) ∈ d.entries := by
  induction parts generalizing here with
  | nil => cases h
  | cons part rest ih =>
      rw [locateAlong] at h
      split at h
      · exact ih h
      dsimp only at h
      split at h
      · next hentry =>
        split at h
        · cases h
          exact ⟨_, mem_of_entryAt hentry⟩
        · cases h
      · exact hjump _ h
      · split at h
        · exact ih h
        · cases h

theorem mem_of_locateFrom {d : Disk} {links : Nat} {here parts : List String} {bytes : List UInt8}
    (h : d.locateFrom links here parts = some (.file bytes)) :
    ∃ place, (place, Entry.file bytes) ∈ d.entries := by
  induction links generalizing here parts with
  | zero => exact mem_of_locateAlong (by simp) h
  | succ links ih => exact mem_of_locateAlong (fun _ => ih) h

/-- What can be read of a disk is a file on it. -/
theorem mem_of_read? {d : Disk} {p : Path} {bytes : List UInt8} (h : d.read? p = some bytes) :
    ∃ place, (place, Entry.file bytes) ∈ d.entries := by
  unfold read? at h
  split at h
  · next found hlocate =>
    cases h
    exact mem_of_locateFrom hlocate
  · cases h

/-- Nothing stands at a place with a name in it that is in no place of the disk. -/
theorem entryAt_eq_none {d : Disk} {part : String} (hentries : ∀ e ∈ d.entries, part ∉ e.1)
    {place : List String} (hmem : part ∈ place) : d.entryAt place = none :=
  Option.eq_none_iff_forall_ne_some.mpr fun _ he => hentries _ (mem_of_entryAt he) hmem

/-- Nor is anything in such a place. -/
theorem isDirectoryAt_eq_false {d : Disk} {part : String} (hentries : ∀ e ∈ d.entries, part ∉ e.1)
    (hdirectories : ∀ p ∈ d.directories, part ∉ p) {place : List String} (hmem : part ∈ place) :
    d.isDirectoryAt place = false := by
  have hinside {other : List String} (hother : part ∉ other) : place.isPrefixOf other = false :=
    Bool.eq_false_iff.mpr fun hprefix =>
      hother ((List.isPrefixOf_iff_prefix.mp hprefix).subset hmem)
  simp only [isDirectoryAt, Bool.or_eq_false_iff, List.any_eq_false, Bool.and_eq_true, not_and,
    Bool.not_eq_true]
  exact ⟨fun e he hinner => absurd hinner (Bool.eq_false_iff.mp (hinside (hentries e he))),
    fun p hp => hinside (hdirectories p hp)⟩

theorem locateAlong_eq_none {d : Disk} {part : String} (hpart : part ≠ "..")
    (hentries : ∀ e ∈ d.entries, part ∉ e.1) (hdirectories : ∀ p ∈ d.directories, part ∉ p)
    {jump : List String → Option Target} (hjump : ∀ parts, part ∈ parts → jump parts = none)
    {here parts : List String} (hmem : part ∈ parts) : d.locateAlong jump here parts = none := by
  induction parts generalizing here with
  | nil => cases hmem
  | cons first rest ih =>
      rw [locateAlong]
      by_cases hfirst : part = first
      · subst hfirst
        have hmem : part ∈ (part :: here).reverse := by simp
        rw [if_neg hpart]
        simp only [entryAt_eq_none hentries hmem,
          isDirectoryAt_eq_false hentries hdirectories hmem, Bool.false_eq_true, if_false]
      · have hrest : part ∈ rest := (List.mem_cons.mp hmem).resolve_left hfirst
        split
        · exact ih hrest
        dsimp only
        -- A file has nothing below it, a link leads somewhere else with the name still to come.
        split
        · rw [if_neg (by simp [List.ne_nil_of_mem hrest])]
        · exact hjump _ (List.mem_append_right _ hrest)
        · split
          · exact ih hrest
          · rfl

/-- No path leads through a name that is nowhere on a disk. -/
theorem locate_eq_none {d : Disk} {part : String} (hpart : part ≠ "..")
    (hentries : ∀ e ∈ d.entries, part ∉ e.1) (hdirectories : ∀ p ∈ d.directories, part ∉ p)
    {p : Path} (hmem : part ∈ p.parts) : d.locate p = none := by
  have hfrom (links : Nat) : ∀ here parts, part ∈ parts → d.locateFrom links here parts = none := by
    induction links with
    | zero => exact fun _ _ => locateAlong_eq_none hpart hentries hdirectories fun _ _ => rfl
    | succ links ih => exact fun _ _ => locateAlong_eq_none hpart hentries hdirectories (ih [])
  exact hfrom _ _ _ hmem

end Disk

/-- That what can be read of an entry as a module is discreet. -/
def Entry.Discreet : Entry → Prop
  | .file bytes => ∀ source, decodeSource bytes = some source →
    ∀ tree, readModule source = .ok tree → tree.Discreet
  | .link _ => True

instance : DecidablePred Entry.Discreet
  | .link _ => isTrue trivial
  | .file bytes =>
    match hsource : decodeSource bytes with
    | none => isTrue fun source h => by simp [hsource] at h
    | some source =>
      match htree : readModule source with
      | .error e => isTrue fun other h tree h' => by simp_all
      | .ok tree => decidable_of_iff tree.Discreet (by simp [Entry.Discreet, hsource, htree])

namespace Disk

/-- That the modules on a disk leave the marker of others alone: what can be read on it asks no
module for the marker, and no module can be found that would hide the marker, or what its statement
needs, from its package. -/
structure Discreet (d : Disk) : Prop where
  files : ∀ e ∈ d.entries, e.2.Discreet
  modules : ∀ directory, ∀ name ∈ markerName :: givenNames,
    Found.inDirectory d name directory = none

/-- No module is found if its name, with or without an ending, is nowhere on the disk. -/
theorem inDirectory_eq_none {d : Disk} {name : String}
    (h : ∀ part ∈ name :: Found.endings.map (name ++ ·), part ≠ ".." ∧
      (∀ e ∈ d.entries, part ∉ e.1) ∧ ∀ p ∈ d.directories, part ∉ p) (directory : Path) :
    Found.inDirectory d name directory = none := by
  have hnothing {p : Path} {part : String} (hpart : part ∈ name :: Found.endings.map (name ++ ·))
      (hmem : part ∈ p.parts) : d.locate p = none :=
    locate_eq_none (h part hpart).1 (h part hpart).2.1 (h part hpart).2.2 hmem
  have hpackage : name ∈ (directory.join ⟨.here, [name]⟩).parts := by
    simp [Path.join, Path.isAbsolute]
  have hinitial : Found.fileIn d (directory.join ⟨.here, [name]⟩) Found.initialName = none := by
    refine List.find?_eq_none.mpr fun p hp => ?_
    obtain ⟨ending, -, rfl⟩ := List.mem_map.mp hp
    have hmem : name ∈ ((directory.join ⟨.here, [name]⟩).join
        ⟨.here, [Found.initialName ++ ending]⟩).parts := by simp [Path.join, Path.isAbsolute]
    simp [isFile, hnothing List.mem_cons_self hmem]
  have hfile : Found.fileIn d directory name = none := by
    refine List.find?_eq_none.mpr fun p hp => ?_
    obtain ⟨ending, hending, rfl⟩ := List.mem_map.mp hp
    have hmem : name ++ ending ∈ (directory.join ⟨.here, [name ++ ending]⟩).parts := by
      simp [Path.join, Path.isAbsolute]
    simp [isFile, hnothing (List.mem_cons_of_mem _ (List.mem_map_of_mem hending)) hmem]
  have hdirectory : d.isDirectory (directory.join ⟨.here, [name]⟩) = false := by
    simp [isDirectory, hnothing List.mem_cons_self hpackage]
  -- A package, a file and a directory without an initial module are all the ways to find a name.
  unfold Found.inDirectory
  split
  · rfl
  · simp [hinitial, hfile, hdirectory]

end Disk

/-! ## Loading modules -/

section Loading

variable {c : Pairing} {importer : Importer}

/-- Binds the text that a module begins with. -/
def introduce (s : SpaceId) (body : List Stmt) : Run Unit :=
  match introduction? body with
  | some text => modify (·.put s "__doc__" (Memory.written s (.text text)))
  | none => pure ()

theorem runBody_eq (importer : Importer) (s : SpaceId) (tree : Module) (lazyHints : Bool) :
    runBody importer s tree lazyHints = introduce s tree.body >>= fun _ =>
      executeAll importer ⟨s, lazyHints, .module⟩ [] tree.body >>= fun _ => pure () := by
  unfold runBody introduce
  cases introduction? tree.body <;> rfl

theorem follows_introduce {count : Nat} (s : SpaceId) (body : List Stmt) :
    Follows c true count (fun _ _ _ => True) (introduce s body) (introduce s body) := by
  unfold introduce
  split
  · refine follows_modify fun m n htandem _ => ⟨htandem.put ?_ fun _ => by decide, Nat.le_refl _⟩
    exact Pairing.pairs_self (by simp [Memory.written])
  · exact follows_pure fun _ _ => trivial

theorem anyMisplaced_of_isRunnable {tree : Module} {lazyHints : Bool}
    (h : Placement.isRunnable tree lazyHints = true) :
    Placement.anyMisplaced ⟨false, false⟩ tree.body = false := by
  simp only [Placement.isRunnable, Placement.isOrderly, Bool.and_eq_true, Bool.not_eq_true'] at h
  exact h.1.1.1

theorem follows_runBody (himporter : importer.KeepsAlike c) {count : Nat} {s : SpaceId}
    (hs : s ≠ c.home) {tree : Module} (htree : tree.Discreet)
    {lazyHints : Bool} (hrunnable : Placement.isRunnable tree lazyHints = true) :
    Follows c true count (fun _ _ _ => True) (runBody importer s tree lazyHints)
      (runBody importer s tree lazyHints) := by
  rw [runBody_eq]
  refine follows_bind (follows_introduce s tree.body) fun count₁ _ _ _ _ => ?_
  have hbody : Follows c true count₁ (c.PairsProgress .module)
      (executeAll importer ⟨s, lazyHints, .module⟩ [] tree.body)
      (executeAll importer ⟨s, lazyHints, .module⟩ [] tree.body) :=
    follows_executeAll himporter (f := ⟨s, lazyHints, .module⟩) (.inl ⟨hs, rfl⟩) rfl .nil tree.body
    (fun st hst => (htree st hst).spares hs) (anyMisplaced_of_isRunnable hrunnable)
  exact follows_bind hbody fun _ _ _ _ _ => follows_pure fun _ _ => trivial

/-- That the statements of a module, if it has any that can be run, are discreet. -/
def DiscreetTree (tree : Except Reason (Module × Bool)) : Prop :=
  ∀ t lazyHints, tree = .ok (t, lazyHints) →
    t.Discreet ∧ Placement.isRunnable t lazyHints = true

theorem follows_runModule (himporter : importer.KeepsAlike c) {count : Nat} (name : String)
    (file : Option Path) (search : Option (List Path)) {tree : Except Reason (Module × Bool)}
    (htree : DiscreetTree tree) :
    Follows c true count (fun _ _ _ => True) (runModule importer name file search tree)
      (runModule importer name file search tree) := by
  -- The new space is another one than that where memories may differ.
  refine follows_bind (P := fun _ s s' => s = s' ∧ s ≠ c.home)
    (follows_modifyGet fun m n htandem _ => ?_) ?_
  · exact ⟨htandem.beginModule name file search, Nat.le_refl _, htandem.spaces_eq.symm,
      Ne.symm (Nat.ne_of_lt htandem.home_lt)⟩
  rintro count₁ - s _ ⟨rfl, hs⟩
  refine follows_bind (P := fun _ _ _ => True) (follows_tryCatch ?_ fun count₂ _ fault => ?_)
    fun _ _ _ _ _ => follows_modify fun m n htandem _ => ⟨htandem.complete s, Nat.le_refl _⟩
  · cases tree with
    | error reason => exact follows_fail _ _
    | ok found =>
        obtain ⟨t, lazyHints⟩ := found
        obtain ⟨hdiscreet, hrunnable⟩ := htree t lazyHints rfl
        exact follows_runBody himporter hs hdiscreet hrunnable
  · exact follows_bind (follows_modify fun m n htandem _ => ⟨htandem.forget name, Nat.le_refl _⟩)
      fun _ _ _ _ _ => follows_fail _ _

theorem follows_attach {count : Nat} {name : String}
    (hname : Package.lastPart name ∉ markerName :: givenNames) :
    Follows c true count (fun _ _ _ => True) (attach name) (attach name) := by
  refine follows_bind follows_get ?_
  rintro count₁ - m n ⟨htandem, -⟩
  simp only [htandem.module?_eq]
  split
  · next parent s _ _ =>
    refine follows_modify fun m n htandem _ => ⟨htandem.put ?_ fun _ => hname, Nat.le_refl _⟩
    exact Pairing.pairs_self (by simp)
  · exact follows_pure fun _ _ => trivial

variable {e : Surroundings}

/-- No module is found that has one of the names that must stay free. -/
theorem Disk.Discreet.search_eq_none {d : Disk} (hdisk : d.Discreet) (directories : List Path)
    {name : String} (hname : Package.lastPart name ∈ markerName :: givenNames) :
    Found.search d directories name = none := by
  have hnothing : directories.filterMap (Found.inDirectory d (Package.lastPart name)) = [] :=
    List.filterMap_eq_nil_iff.mpr fun directory _ => hdisk.modules directory _ hname
  simp [Found.search, hnothing]

theorem Disk.Discreet.readModule {d : Disk} (hdisk : d.Discreet) {p : Path} {source : String}
    (h : (d.read? p).bind decodeSource = some source) {tree : Module}
    (htree : readModule source = .ok tree) : tree.Discreet := by
  obtain ⟨bytes, hbytes, hsource⟩ := Option.bind_eq_some_iff.mp h
  obtain ⟨place, hmem⟩ := Disk.mem_of_read? hbytes
  -- What is asked of a disk is asked of each text on it, wherever it stands.
  exact hdisk.files _ hmem source hsource tree htree

theorem runnable_eq_ok {tree t : Module} {b lazyHints : Bool}
    (h : Surroundings.runnable tree b = .ok (t, lazyHints)) :
    t = tree ∧ lazyHints = b ∧ Placement.isRunnable tree b = true := by
  unfold Surroundings.runnable at h
  split at h
  · cases h
  · next hrunnable =>
    split at h
    · cases h
    · cases h
      exact ⟨rfl, rfl, by simpa using hrunnable⟩

theorem plainTree_eq_ok {source : String} {t : Module} {lazyHints : Bool}
    (h : Surroundings.plainTree source = .ok (t, lazyHints)) :
    readModule source = .ok t ∧ lazyHints = Placement.hasLazyHints t ∧
      Placement.isRunnable t lazyHints = true := by
  unfold Surroundings.plainTree at h
  split at h
  · cases h
  · next tree htree =>
    obtain ⟨rfl, rfl, hrunnable⟩ := runnable_eq_ok h
    exact ⟨htree, rfl, hrunnable⟩

theorem openedTree_eq_ok {source : String} {t : Module} {lazyHints : Bool}
    (h : Surroundings.openedTree source = .ok (t, lazyHints)) :
    ∃ tree o, readModule source = .ok tree ∧ openTree tree source = .ok o ∧ t = o.tree ∧
      Placement.isRunnable t lazyHints = true := by
  unfold Surroundings.openedTree at h
  split at h
  · cases h
  · next tree htree =>
    split at h
    · cases h
    · next o ho =>
      obtain ⟨rfl, rfl, hrunnable⟩ := runnable_eq_ok h
      exact ⟨tree, o, htree, ho, rfl, hrunnable⟩

/-- What a finder takes has been read on the disk. -/
theorem exists_read_of_find {d : Disk} {f : Finder} {directories : List Path} {name : String}
    {spec : Spec} (h : f.find d directories name = .ok (.spec spec)) :
    ∃ p, (d.read? p).bind decodeSource = some spec.source := by
  unfold Finder.find at h
  split at h
  · next origin search _ =>
    obtain ⟨admitted, -, h⟩ := bind_eq_ok.mp h
    split at h
    · split at h
      · cases h
      · next source hsource =>
        split at h
        · cases h
          exact ⟨_, hsource⟩
        · cases h
    · cases h
  · cases h

/-- What a finder takes is a discreet module, and its name leaves the free names alone. -/
theorem discreet_of_find (hdisk : e.disk.Discreet) {f : Finder} {directories : List Path}
    {name : String} {spec : Spec} (h : f.find e.disk directories name = .ok (.spec spec)) :
    DiscreetTree (Surroundings.openedTree spec.source) ∧
      Package.lastPart name ∉ markerName :: givenNames := by
  constructor
  · obtain ⟨p, hp⟩ := exists_read_of_find h
    intro t lazyHints ht
    obtain ⟨tree, o, htree, ho, rfl, hrunnable⟩ := openedTree_eq_ok ht
    exact ⟨discreet_openTree ho (hdisk.readModule hp htree), hrunnable⟩
  · intro hname
    rw [Finder.find, hdisk.search_eq_none directories hname] at h
    cases h

/-- So is what no finder takes. -/
theorem discreet_plainTree (hdisk : e.disk.Discreet) (name : String) (origin : Path) :
    DiscreetTree ((e.plainText name origin).bind Surroundings.plainTree) := by
  intro t lazyHints ht
  obtain ⟨source, htext, ht⟩ := bind_eq_ok.mp ht
  obtain ⟨htree, -, hrunnable⟩ := plainTree_eq_ok ht
  have hsource : (e.disk.read? origin).bind decodeSource = some source := by
    unfold Surroundings.plainText at htext
    split at htext
    · split at htext
      · next hfound =>
        cases htext
        exact hfound
      · cases htext
    · cases htext
  exact ⟨hdisk.readModule hsource htree, hrunnable⟩

theorem follows_ask (hdisk : e.disk.Discreet) {count : Nat} (directories : List Path)
    (name : String) (finders : List Finder) :
    Follows c true count (fun _ r r' => r = r' ∧ ∀ spec ∈ r,
        DiscreetTree (Surroundings.openedTree spec.source) ∧
          Package.lastPart name ∉ markerName :: givenNames)
      (e.ask directories name finders) (e.ask directories name finders) := by
  induction finders generalizing count with
  | nil => exact follows_pure fun _ _ => ⟨rfl, by simp⟩
  | cons f rest ih =>
      unfold Surroundings.ask
      cases hfind : f.find e.disk directories name with
      | error error => exact follows_fail _ _
      | ok finding =>
          cases finding with
          | nothing => exact ih
          | unreadable =>
              exact follows_bind (follows_modify fun m n htandem _ =>
                ⟨htandem.missed, Nat.le_refl _⟩) fun _ _ _ _ _ => ih
          | spec spec =>
              refine follows_pure fun _ _ => ⟨rfl, ?_⟩
              rintro _ ⟨⟩
              exact discreet_of_find hdisk hfind

theorem Tandem.directories_eq {m n : Memory} (h : Tandem c m n) (name : String) :
    e.directories n name = e.directories m name := by
  simp only [Surroundings.directories, h.module?_eq, h.record_eq]

theorem follows_loadOne (hdisk : e.disk.Discreet) (himporter : importer.KeepsAlike c)
    {count : Nat} (name : String) :
    Follows c true count (fun _ _ _ => True) (e.loadOne importer name)
      (e.loadOne importer name) := by
  refine follows_bind follows_get ?_
  rintro count₁ - m n ⟨htandem, -⟩
  rw [htandem.loaded_eq]
  split
  · exact follows_pure fun _ _ => trivial
  · exact follows_fail _ _
  · refine follows_bind follows_get ?_
    rintro count₂ - m n ⟨htandem, -⟩
    -- Where to look is told by the packages on the way, which are the same in both memories.
    rw [htandem.directories_eq]
    refine follows_bind (P := fun _ r r' => r = r') (follows_lift _ (fun _ _ _ _ h => h)
      (Answers.refl fun _ _ => rfl)) ?_
    rintro count₃ - directories _ rfl
    refine follows_bind (follows_ask hdisk directories name e.finders) ?_
    rintro count₄ - spec _ ⟨rfl, hspec⟩
    cases spec with
    | some spec =>
        obtain ⟨htree, hname⟩ := hspec spec rfl
        exact follows_bind (follows_runModule himporter _ _ _ htree) fun _ _ _ _ _ =>
          follows_attach hname
    | none =>
        cases hsearch : Found.search e.disk directories name with
        | none => exact follows_fail _ _
        | some found =>
            have hname : Package.lastPart name ∉ markerName :: givenNames := fun hmem => by
              simp [hdisk.search_eq_none directories hmem] at hsearch
            cases found with
            | file origin search =>
                exact follows_bind (follows_runModule himporter _ _ _
                  (discreet_plainTree hdisk name origin)) fun _ _ _ _ _ => follows_attach hname
            | portions search =>
                refine follows_bind (follows_runModule himporter _ _ _ ?_) fun _ _ _ _ _ =>
                  follows_attach hname
                rintro t lazyHints ⟨⟩
                exact ⟨by simp [Module.Discreet], by decide⟩

theorem keepsAlike_load (hdisk : e.disk.Discreet) (depth : Nat) :
    (e.load depth).KeepsAlike c := by
  induction depth with
  | zero => exact fun name count => follows_fail _ _
  | succ depth ih =>
      intro name count
      refine follows_bind follows_get ?_
      rintro count₁ - m n ⟨htandem, -⟩
      have hunloaded : Surroundings.unloaded n name = Surroundings.unloaded m name := by
        simp only [Surroundings.unloaded, htandem.loaded_eq]
      -- The parts of a name that are not loaded yet are the same in both memories.
      rw [htandem.loaded_eq, hunloaded]
      split
      · exact follows_fail _ _
      · exact follows_forM fun part _ _ => follows_loadOne hdisk ih part

end Loading

end Standin
