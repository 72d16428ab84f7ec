/-
Opening keeps the meaning of a module.

A module is run in a new space, once as it stands and once opened, from the same memory.  The
two runs are taken apart at the marker: before it both memories are the same; the marker
leaves nothing but its constant behind in the first run, and in the second one it makes the
module's registry; after it the memories are in tandem, with that registry as the one that
came in between.  Other statements change in their annotations at most, and these are not
evaluated in an opened module.

That modules on the disk leave the marker alone is needed, not only convenient: a module that
is imported in a circle may take the marker while the one that declares it is still running,
and then it holds the registry in one run and the constant in the other
(`not_sameRun_circular`).  And an opened module has its annotations left alone, so that one which
binds a name keeps the module from being run at all, where it may do so as it stands
(`not_gives_opened_walrus`).
-/
import Standin.Proofs.OpenedBody

set_option autoImplicit false

namespace Standin

open Source

/-! ## Memories to begin with -/

/-- That a memory knows of no registry that has not been made. -/
structure Memory.Sound (m : Memory) : Prop where
  own : ∀ s name o, m.world.own s name = some o → o.Known m.registries
  content : ∀ id, ∀ o ∈ (m.content id).objects, o.Known m.registries

theorem Memory.sound_empty : Memory.empty.Sound :=
  ⟨fun _ _ _ h => (nomatch h), fun _ _ h => (nomatch h)⟩

namespace Pairing

variable {s : SpaceId}

/-- Before there is another registry, objects are like themselves only. -/
theorem object_none (s : SpaceId) : (⟨s, none⟩ : Pairing).object = fun o => o := by
  funext o
  cases o <;> rfl

/-- The registry that comes in does not change what was there before. -/
theorem object_of_known {k : Nat} {r : Registry} {o : Object} (h : o.Known k) :
    (⟨s, some (k, r)⟩ : Pairing).object o = o := by
  cases o with
  | registry id =>
      have hid : id < k := h
      simp [object, index, hid]
  | _ => rfl

end Pairing

/-- The two runs of a module begin with the same memory. -/
theorem Memory.Sound.tandem_beginModule {m : Memory} (h : m.Sound) (name : String)
    (file : Option Path) (search : Option (List Path)) :
    Tandem ⟨m.spaces, none⟩ (m.beginModule name file search).2
      (m.beginModule name file search).2 := by
  obtain ⟨cells, hconstant, hgiven, hown⟩ := own_beginModule name file search
  exact {
    own_eq := fun t other _ => by simp [Pairing.object_none]
    loaded_eq := rfl
    nextObject_eq := rfl
    events_eq := rfl
    content_eq := fun id => by rw [Pairing.object_none, Content.map_id]
    record_eq := rfl
    spaces_eq := rfl
    unreadable_eq := rfl
    registries_eq := rfl
    registry_eq := fun id _ => rfl
    known_own := fun t other o ho => by
      rw [hown] at ho
      split at ho
      · obtain ⟨v, rfl⟩ := hconstant other o ho
        trivial
      · exact h.own t other o ho
    known_content := h.content
    home_lt := Nat.lt_succ_self _
    given_free := fun other hother => by
      rw [hown, if_pos rfl]
      exact hgiven other hother
    extra := by simp }

namespace Tandem

variable {s : SpaceId} {m n : Memory}

/-- What the first memory has under the marker does not matter. -/
theorem put_marker {c : Pairing} (h : Tandem c m n) {o : Object} (ho : o.Known m.registries) :
    Tandem c (m.put c.home markerName o) n :=
  { h with
    own_eq := fun t other hother => by
      rw [h.own_eq t other hother]
      simp only [Memory.put, World.own_put, if_neg hother]
    known_own := fun t other p hp => by
      simp only [Memory.put, World.own_put] at hp
      split at hp
      · cases hp
        exact ho
      · exact h.known_own t other p hp
    given_free := fun other hother => by
      have hne : other ≠ markerName := by
        rintro rfl
        simp [givenNames, markerName] at hother
      simp only [Memory.put, World.own_put, hne, and_false, if_false]
      exact h.given_free other hother }

/-- The second memory gets a registry that the first one does not have. -/
theorem enter (h : Tandem ⟨s, none⟩ m n) (bindings mutables : List String) :
    Tandem ⟨s, some (m.registries, Registry.new bindings mutables s (.fresh .resettable))⟩ m
      ((n.makeRegistry bindings mutables s).2.put s markerName (.registry m.registries)) := by
  have hregistries : n.registries = m.registries := h.registries_eq
  have hown := h.own_eq
  have hcontent := h.content_eq
  simp only [Pairing.object_none] at hown hcontent
  exact { h with
    own_eq := fun t other hother => by
      simp only [Memory.makeRegistry, Memory.put, World.own_put, if_neg hother]
      change n.world.own t other = _
      rw [hown t other hother]
      cases hcell : m.world.own t other with
      | none => rfl
      | some o => simp [Pairing.object_of_known (h.known_own t other o hcell)]
    content_eq := fun id => by
      change n.content id = _
      rw [hcontent id]
      exact Content.map_congr fun o ho => (Pairing.object_of_known (h.known_content id o ho)).symm
    registries_eq := by
      simp [Memory.makeRegistry, Memory.put, Pairing.index, hregistries]
    registry_eq := fun id hid => by
      have hne : id ≠ n.registries := Nat.ne_of_lt (hregistries ▸ hid)
      have hsame : n.world.registry id = m.world.registry id := h.registry_eq id hid
      simp only [Pairing.index, if_pos hid]
      exact (if_neg hne).trans hsame
    extra := fun k r hextra => by
      obtain ⟨rfl, rfl⟩ : m.registries = k ∧
          Registry.new bindings mutables s (.fresh .resettable) = r := by
        simpa using hextra
      refine ⟨Nat.le_refl _, ?_, ?_⟩
      · simp [Memory.put, World.own_put]
      · exact if_pos hregistries.symm }

end Tandem

/-! ## The two runs of a module's body -/

namespace Source

/-- Whether the value of a declaration, if it has one, is a constant. -/
def Stmt.hasConstantValue : Stmt → Bool
  | .assign _ (.constant ..) _ | .annAssign _ _ none .. | .annAssign _ _ (some (.constant ..)) .. =>
    true
  | _ => false

/-- That nothing that runs in a node has to do with the marker or with what its statement needs. -/
def Node.Unconcerned (n : Node) : Prop :=
  n.Every Node.running fun m => ∀ name ∈ m.asked ++ m.used, name ∉ markerName :: givenNames

instance : DecidablePred Node.Unconcerned := fun n =>
  inferInstanceAs (Decidable (n.Every Node.running fun m =>
    ∀ name ∈ m.asked ++ m.used, name ∉ markerName :: givenNames))

end Source

section Body

variable {importer : Importer} {f : Frame}

theorem Source.Node.Unconcerned.spares {c : Pairing} {n : Node} (h : n.Unconcerned)
    (s : SpaceId) : c.Spares s n :=
  h.imp fun _ hm => ⟨fun hasked => hm _ (List.mem_append_left _ hasked) List.mem_cons_self,
    fun _ name hname => hm name (List.mem_append_right _ hname)⟩

theorem executeAll_append (l : Locals) (before after : List Stmt) :
    executeAll importer f l (before ++ after) = executeAll importer f l before >>= fun p =>
      match p with
      | (l, none) => executeAll importer f l after
      | (l, some o) => pure (l, some o) := by
  induction before generalizing l with
  | nil => rfl
  | cons s rest ih =>
      simp only [List.cons_append, executeAll, bind_assoc]
      refine bind_congr fun p => ?_
      obtain ⟨l', o⟩ := p
      cases o with
      | none => exact ih l'
      | some o => rfl

/-- A declaration whose annotation is not evaluated is an assignment. -/
theorem execute_annAssign_of_lazyHints (hlazy : f.lazyHints = true) (l : Locals)
    (target hint value : Expr) (simple : Bool) (span : Span) :
    execute importer f l (.annAssign target hint (some value) simple span) =
      execute importer f l (.assign [target] value span) := by
  have hhints : f.evaluatesHints = false := by
    unfold Frame.evaluatesHints
    split <;> simp [hlazy]
  simp only [execute, hhints, Bool.false_eq_true, if_false]

theorem follows_openDeclaration {c : Pairing} (himporter : importer.KeepsAlike c) {count : Nat}
    {l l' : Locals} (hl : c.PairsLocals f.kind count l l') {s s' : Stmt}
    (h : openDeclaration s = .ok s') (hs : c.Spares f.space (.stmt s))
    (hplaced : Placement.isMisplaced ⟨false, false⟩ s = false) :
    Follows c false count (c.PairsProgress f.kind) (execute importer f l s)
      (execute importer (f.hinted true) l' s') := by
  have hsame : Follows c false count (c.PairsProgress f.kind) (execute importer f l s)
      (execute importer (f.hinted true) l' s) :=
    follows_execute himporter (.inr ⟨rfl, rfl⟩) rfl hl s hs hplaced
  by_cases hfinal : s.DeclaresFinal
  · obtain ⟨target, hint, value, simple, span, rfl, hhint⟩ := hfinal
    -- An opened module does not look at its annotations, so that losing one changes nothing.
    rw [execute_annAssign_of_lazyHints (f := f.hinted true) rfl] at hsame
    obtain rfl | ⟨inner, rfl⟩ := openDeclaration_keeps h hhint
    · exact hsame
    · rw [execute_annAssign_of_lazyHints (f := f.hinted true) rfl]
      exact hsame
  · obtain rfl := openDeclaration_of_not_final h hfinal
    exact hsame

theorem follows_openBody {c : Pairing} (himporter : importer.KeepsAlike c) {count : Nat}
    {l l' : Locals} (hl : c.PairsLocals f.kind count l l') {bindings mutables : List String}
    {injected done : Bool} {body opened : List Stmt}
    (h : openBody bindings mutables injected body = .ok (opened, done))
    (hbody : ∀ s ∈ body, declaresMarker s = false ∧ c.Spares f.space (.stmt s))
    (hplaced : Placement.anyMisplaced ⟨false, false⟩ body = false) :
    Follows c false count (c.PairsProgress f.kind) (executeAll importer f l body)
      (executeAll importer (f.hinted true) l' opened) := by
  induction body generalizing injected opened l l' count with
  | nil =>
      cases h
      exact follows_pure fun _ hle => ⟨hl.mono hle, rfl, rfl⟩
  | cons s rest ih =>
      obtain ⟨s', rest', rfl, hs', hrest'⟩ := openBody_cons_eq_ok h
      obtain ⟨⟨hmarker, hs⟩, hrest⟩ := List.forall_mem_cons.mp hbody
      simp only [Placement.anyMisplaced, Bool.or_eq_false_iff] at hplaced
      refine follows_bind (follows_openDeclaration himporter hl
        ((opensTo_other hmarker).mp hs') hs hplaced.1) ?_
      rintro count₁ hle₁ ⟨l₁, _⟩ ⟨l₁', _⟩ ⟨hl₁, rfl, rfl⟩
      exact ih hl₁ hrest' hrest hplaced.2

/-- An annotation that has been passed has left everything as it was. -/
theorem outcome_hint_eq_ok {hinted : Bool} {x : Run Unit} (hx : Quiet x) {α : Type} {a b : α}
    {m m' : Memory}
    (h : outcome (if hinted then x >>= fun _ => pure a else pure a) m = (.ok b, m')) :
    b = a ∧ m' = m := by
  cases hinted with
  | false =>
      cases h
      exact ⟨rfl, rfl⟩
  | true =>
      have hsame := hx m
      simp only [if_true, outcome_bind] at h
      rcases hstep : outcome x m with ⟨(e | u), m₁⟩
      · simp [hstep] at h
      · rw [hstep] at h hsame
        cases h
        exact ⟨rfl, hsame⟩

theorem isMarkerName_iff {e : Expr} :
    isMarkerName e = true ↔ ∃ usage span, e = .name markerName usage span := by
  cases e <;> simp [isMarkerName]

/-- A marker as it stands changes nothing but what is bound to it. -/
theorem execute_marker (hkind : f.kind = .module) {s : Stmt} (hmarker : declaresMarker s = true)
    (hvalue : s.hasConstantValue = true) {l : Locals} {m m' : Memory} {p : Progress}
    (h : outcome (execute importer f l s) m = (.ok p, m')) :
    p = (l, none) ∧
      (m' = m ∨ ∃ v, m' = m.put f.space markerName (Memory.written f.space v)) := by
  obtain ⟨space, lazyHints, _⟩ := f
  cases hkind
  unfold Stmt.hasConstantValue at hvalue
  split at hvalue
  · next targets v _ _ span =>
    match targets with
    | [target] =>
        obtain ⟨usage, place, rfl⟩ := isMarkerName_iff.mp hmarker
        cases h
        exact ⟨rfl, .inr ⟨v, rfl⟩⟩
    | [] | _ :: _ :: _ => simp [declaresMarker] at hmarker
  · next target hint simple span =>
    obtain ⟨hp, hm⟩ := outcome_hint_eq_ok (quiet_checkHint l hint) h
    exact ⟨hp, .inl hm⟩
  · next target hint v _ _ simple span =>
    obtain ⟨usage, place, rfl⟩ := isMarkerName_iff.mp hmarker
    obtain ⟨hp, hm⟩ := outcome_hint_eq_ok (m := m.put space markerName (Memory.written space v))
      (quiet_checkHint l hint) h
    exact ⟨hp, .inr ⟨v, hm⟩⟩
  · cases hvalue

/-- The registry's statement makes a registry and binds it to the marker. -/
theorem execute_registryStatement (hkind : f.kind = .module) {n : Memory}
    (hgiven : ∀ name ∈ givenNames, n.world.own f.space name = none)
    (bindings mutables : List String) (span : Span) :
    outcome (execute importer f [] (registryStatement bindings mutables span)) n =
      (.ok ([], none), (n.makeRegistry bindings mutables f.space).2.put f.space markerName
        (.registry n.registries)) := by
  obtain ⟨space, lazyHints, _⟩ := f
  cases hkind
  have hexpect : ∀ name ∈ givenNames,
      outcome (Frame.expectGiven ⟨space, lazyHints, .module⟩ [] name span.start.line) n =
        (.ok (), n) := by
    intro name hname
    have hown := hgiven name hname
    have hoffer : Library.offer? Library.everywhere name = some .other := by
      simp only [givenNames, List.mem_cons, List.not_mem_nil, or_false] at hname
      obtain rfl | rfl := hname <;> decide
    have hlookup : Frame.lookup ⟨space, lazyHints, .module⟩ [] name n =
        .ok (.offered Library.everywhere (some name)) := by
      have hkey : name ≠ hintsKey := by
        rintro rfl
        revert hname
        decide
      simp [Frame.lookup, Frame.owns, hkey, hown, hoffer]
    have hfind : outcome (Frame.find ⟨space, lazyHints, .module⟩ [] name span.start.line) n =
        (.ok (.offered Library.everywhere (some name)), n) := by
      change outcome (Run.lift _ (Frame.lookup ⟨space, lazyHints, .module⟩ [] name n)) n = _
      rw [hlookup]
      rfl
    rw [Frame.expectGiven, outcome_bind, hfind]
    simp only [if_true]
    rfl
  have himport := hexpect "__import__" (by decide)
  have hglobals := hexpect "globals" (by decide)
  simp only [registryStatement, execute, evaluate, creationLists?_registry, outcome_bind, himport,
    hglobals]
  rfl

end Body

/-! ## The two runs of a module -/

/-- A run of a module comes to its end when that of its body does. -/
theorem outcome_runModule_eq_ok {importer : Importer} {name : String} {file : Option Path}
    {search : Option (List Path)} {tree : Module} {lazyHints : Bool} {m m' : Memory} :
    outcome (runModule importer name file search (.ok (tree, lazyHints))) m = (.ok (), m') ↔
      ∃ m₁, outcome (runBody importer m.spaces tree lazyHints)
        (m.beginModule name file search).2 = (.ok (), m₁) ∧ m' = m₁.complete m.spaces := by
  have hbegin : outcome (modifyGet (·.beginModule name file search) : Run SpaceId) m =
      (.ok m.spaces, (m.beginModule name file search).2) := rfl
  have hlift (m : Memory) : outcome (Run.lift 0 (.ok (tree, lazyHints))) m =
      (.ok (tree, lazyHints), m) := rfl
  rw [runModule, outcome_bind, hbegin]
  simp only [outcome_bind, outcome_tryCatch, hlift]
  rcases outcome (runBody importer m.spaces tree lazyHints)
    (m.beginModule name file search).2 with ⟨(e | u), m₁⟩
  · constructor
    · rintro h
      cases h
    · rintro ⟨_, ⟨⟩, -⟩
  · constructor
    · rintro h
      cases h
      exact ⟨m₁, rfl, rfl⟩
    · rintro ⟨_, ⟨⟩, rfl⟩
      rfl

theorem outcome_runModule_error (importer : Importer) (name : String) (file : Option Path)
    (search : Option (List Path)) (reason : Reason) (m : Memory) :
    ¬ Gives (outcome (runModule importer name file search (.error reason)) m).1 := by
  rintro ⟨u, hu⟩
  cases hu

/-- What has nothing to do with the marker does not declare it. -/
theorem declaresMarker_of_unconcerned {s : Stmt} (h : (Node.stmt s).Unconcerned) :
    declaresMarker s = false := by
  have hname {target : Expr} (htarget : Node.expr target ∈ (Node.stmt s).running) :
      isMarkerName target = false := by
    refine Bool.eq_false_iff.mpr fun hmarker => ?_
    obtain ⟨usage, span, rfl⟩ := isMarkerName_iff.mp hmarker
    exact (h.part htarget).self markerName (by simp [Node.asked, Node.used]) List.mem_cons_self
  unfold declaresMarker
  split
  · exact hname List.mem_cons_self
  · exact hname List.mem_cons_self
  · rfl

/-- A marker and what comes after it, in a module as it stands. -/
theorem outcome_executeAll_cons_eq_ok {importer : Importer} {f : Frame} {l : Locals} {s : Stmt}
    {rest : List Stmt} {m m' : Memory} {p : Progress}
    (h : outcome (executeAll importer f l (s :: rest)) m = (.ok p, m')) :
    ∃ q m₁, outcome (execute importer f l s) m = (.ok q, m₁) ∧
      (q.2 = none → outcome (executeAll importer f q.1 rest) m₁ = (.ok p, m')) := by
  rw [executeAll] at h
  obtain ⟨⟨l', o⟩, m₁, hfirst, hrest⟩ := outcome_bind_eq_ok h
  refine ⟨_, m₁, hfirst, ?_⟩
  rintro rfl
  exact hrest

/-- The marker becomes a registry in the second run only. -/
theorem execute_marker_opened {importer : Importer} {m m₁ n : Memory} {s : SpaceId}
    {lazyHints : Bool} (htandem : Tandem ⟨s, none⟩ m n) {marker : Stmt}
    (hmarker : declaresMarker marker = true) (hvalue : marker.hasConstantValue = true)
    {l : Locals} {p : Progress}
    (hplain : outcome (execute importer ⟨s, lazyHints, .module⟩ l marker) m = (.ok p, m₁))
    (bindings mutables : List String) :
    p = (l, none) ∧ ∃ n₁,
      outcome (execute importer ⟨s, true, .module⟩ []
        (registryStatement bindings mutables marker.span)) n = (.ok ([], none), n₁) ∧
      Tandem ⟨s, some (m.registries, Registry.new bindings mutables s (.fresh .resettable))⟩
        m₁ n₁ := by
  obtain ⟨hp, hput⟩ := execute_marker rfl hmarker hvalue hplain
  have hgiven : ∀ name ∈ givenNames, n.world.own s name = none := fun name hname => by
    have hne : name ≠ markerName := by
      rintro rfl
      simp [givenNames, markerName] at hname
    rw [htandem.own_eq s name fun hs => hne hs.2, htandem.given_free name hname]
    rfl
  have hregistries : n.registries = m.registries := htandem.registries_eq
  have hran : outcome (execute importer ⟨s, true, .module⟩ []
      (registryStatement bindings mutables marker.span)) n =
      (.ok ([], none), (n.makeRegistry bindings mutables s).2.put s markerName
        (.registry n.registries)) :=
    execute_registryStatement rfl hgiven bindings mutables marker.span
  rw [hregistries] at hran
  refine ⟨hp, _, hran, ?_⟩
  have henter := htandem.enter bindings mutables
  obtain rfl | ⟨v, rfl⟩ := hput
  · exact henter
  · exact henter.put_marker trivial

section Marked

variable {importer : Importer} {s : SpaceId} {lazyHints : Bool} {bindings mutables : List String}
  {done : Bool} {before after opened : List Stmt} {marker : Stmt}

/-- The opened body falls into the same three parts, with the registry in the place of the
marker. -/
theorem openBody_marked (hmarker : declaresMarker marker = true)
    (hrest : ∀ t ∈ before ++ after, (Node.stmt t).Unconcerned)
    (hopened : openBody bindings mutables false (before ++ marker :: after) =
      .ok (opened, done)) :
    ∃ before' after',
      opened = before' ++ registryStatement bindings mutables marker.span :: after' ∧
      openBody bindings mutables false before = .ok (before', false) ∧
      openBody bindings mutables true after = .ok (after', done) := by
  obtain ⟨before', rest', mid, rfl, hbefore', hrest'⟩ := openBody_append hopened
  obtain rfl : mid = false := by
    rw [(length_and_injected_of_openBody hbefore').2, Bool.false_or, List.any_eq_false]
    exact fun t ht => by simp [declaresMarker_of_unconcerned (hrest t (List.mem_append_left _ ht))]
  obtain ⟨marker', after', rfl, hmarker', hafter'⟩ := openBody_cons_eq_ok hrest'
  obtain rfl : marker' = registryStatement bindings mutables marker.span :=
    (opensTo_marker hmarker).mp hmarker'
  rw [hmarker, Bool.or_true] at hafter'
  exact ⟨before', after', rfl, hbefore', hafter'⟩

variable (himporter : ∀ c : Pairing, importer.KeepsAlike c)
  (hmarker : declaresMarker marker = true) (hvalue : marker.hasConstantValue = true)
  (hrest : ∀ t ∈ before ++ after, (Node.stmt t).Unconcerned)
  (hplaced : Placement.anyMisplaced ⟨false, false⟩ (before ++ marker :: after) = false)
  (hopened : openBody bindings mutables false (before ++ marker :: after) = .ok (opened, done))

include himporter hmarker hvalue hrest hplaced hopened

/-- **The two runs of the statements of a module.**  Before the marker the memories are the same;
after it, the second one has a registry more. -/
theorem executeAll_opened {m m₁ n : Memory} {p : Progress} (htandem : Tandem ⟨s, none⟩ m n)
    (hplain : outcome (executeAll importer ⟨s, lazyHints, .module⟩ []
      (before ++ marker :: after)) m = (.ok p, m₁)) :
    ∃ p' k n₁, outcome (executeAll importer ⟨s, true, .module⟩ [] opened) n = (.ok p', n₁) ∧
      Tandem ⟨s, some (k, Registry.new bindings mutables s (.fresh .resettable))⟩ m₁ n₁ := by
  have hspares (c : Pairing) {part : List Stmt} (hpart : part ⊆ before ++ after) :
      ∀ t ∈ part, declaresMarker t = false ∧ c.Spares s (.stmt t) := fun t ht =>
    ⟨declaresMarker_of_unconcerned (hrest t (hpart ht)), (hrest t (hpart ht)).spares s⟩
  obtain ⟨hplacedBefore, hplacedAfter⟩ : Placement.anyMisplaced ⟨false, false⟩ before = false ∧
      Placement.anyMisplaced ⟨false, false⟩ after = false := by
    simp only [anyMisplaced_eq_any, List.any_append, List.any_cons, Bool.or_eq_false_iff]
      at hplaced ⊢
    exact ⟨hplaced.1, hplaced.2.2⟩
  obtain ⟨before', after', rfl, hbefore', hafter'⟩ := openBody_marked hmarker hrest hopened
  rw [executeAll_append] at hplain
  obtain ⟨⟨l, o⟩, m₂, hbefore, hmarkerOn⟩ := outcome_bind_eq_ok hplain
  obtain ⟨⟨l', o'⟩, n₂, hbeforeRan, htandem₂, ⟨hnames, hgoes, hgoes'⟩, -⟩ :=
    (follows_openBody (himporter _) (f := ⟨s, lazyHints, .module⟩) .nil hbefore'
      (hspares _ (List.subset_append_left _ _)) hplacedBefore).of_eq_ok htandem (Nat.zero_le _)
      hbefore
  obtain ⟨hl, hl'⟩ := hnames.empty rfl
  dsimp only at hgoes hgoes' hl hl'
  subst hgoes hgoes' hl hl'
  -- From the marker on the two memories are paired by the registry that has come in.
  obtain ⟨q, m₃, hmarked, hafterOn⟩ := outcome_executeAll_cons_eq_ok hmarkerOn
  obtain ⟨rfl, n₃, hmarkerRan, htandem₃⟩ :=
    execute_marker_opened htandem₂ hmarker hvalue hmarked bindings mutables
  obtain ⟨p', n₁, hafterRan, htandem₁, -⟩ :=
    (follows_openBody (himporter _) (f := ⟨s, lazyHints, .module⟩) .nil hafter'
      (hspares _ (List.subset_append_right _ _)) hplacedAfter).of_eq_ok htandem₃ (Nat.zero_le _)
      (hafterOn rfl)
  refine ⟨p', _, n₁, ?_, htandem₁⟩
  rw [executeAll_append, outcome_bind]
  simp only [Frame.hinted] at hbeforeRan hafterRan
  simp only [hbeforeRan, executeAll, outcome_bind, hmarkerRan, hafterRan]

/-- **The two runs of a module's body.** -/
theorem runBody_opened {m m₁ : Memory} (htandem : Tandem ⟨s, none⟩ m m)
    (hplain : outcome (runBody importer s ⟨before ++ marker :: after⟩ lazyHints) m = (.ok (), m₁)) :
    ∃ k n₁, outcome (runBody importer s ⟨opened⟩ true) m = (.ok (), n₁) ∧
      Tandem ⟨s, some (k, Registry.new bindings mutables s (.fresh .resettable))⟩ m₁ n₁ := by
  rw [runBody_eq] at hplain
  obtain ⟨_, m₂, hintroduce, hbody⟩ := outcome_bind_eq_ok hplain
  obtain ⟨_, n₂, hintroduced, htandem₂, -⟩ :=
    (follows_introduce s _).of_eq_ok htandem (Nat.zero_le _) hintroduce
  obtain ⟨p, m₃, hparts, hdone⟩ := outcome_bind_eq_ok hbody
  obtain rfl : m₃ = m₁ := congrArg Prod.snd hdone
  obtain ⟨p', k, n₁, hran, htandem₁⟩ :=
    executeAll_opened himporter hmarker hvalue hrest hplaced hopened htandem₂ hparts
  refine ⟨k, n₁, ?_, htandem₁⟩
  rw [runBody_eq, outcome_bind, introduce_of_openBody hopened, hintroduced]
  simp only [outcome_bind, hran]
  rfl

end Marked

/-- That a module declares the marker once, with a constant for its value if it has one, and that
nothing else that runs in the module has to do with the marker or with what its statement needs. -/
def Source.Module.MarkedOnce (tree : Module) : Prop :=
  ∃ before marker after, tree.body = before ++ marker :: after ∧ declaresMarker marker = true ∧
    marker.hasConstantValue = true ∧ ∀ s ∈ before ++ after, (Node.stmt s).Unconcerned

theorem markedOnce_of_index {tree : Module} (i : Nat)
    (hmarker : (tree.body[i]?.any fun s => declaresMarker s && s.hasConstantValue) = true)
    (hrest : ∀ s ∈ tree.body.take i ++ tree.body.drop (i + 1), (Node.stmt s).Unconcerned) :
    tree.MarkedOnce := by
  cases hget : tree.body[i]? with
  | none => simp [hget] at hmarker
  | some marker =>
      obtain ⟨hi, rfl⟩ := List.getElem?_eq_some_iff.mp hget
      simp only [hget, Option.any_some, Bool.and_eq_true] at hmarker
      refine ⟨tree.body.take i, _, tree.body.drop (i + 1), ?_, hmarker.1, hmarker.2, hrest⟩
      rw [← List.drop_eq_getElem_cons hi, List.take_append_drop]

/-- That two runs of the module in a space, one as it stands and one that is opened, have led to the
same but for the marker.  There the opened module holds a registry of its own, which is given what
came of opening it; objects are the same but for the numbers of registries, and look the same.
Nothing is said of what the module keeps of its annotations. -/
structure SameRun (o : Outcome) (s : SpaceId) (plain opened : Memory) : Prop where
  alike : ∃ k, opened.attribute? s markerName = some (.registry k) ∧
    opened.world.registry k = Registry.new o.bindings o.mutables s (.fresh .resettable) ∧
    Tandem ⟨s, some (k, opened.world.registry k)⟩ plain opened
  view_eq : ∀ name, name ≠ markerName → name ≠ hintsKey →
    (opened.attribute? s name).map opened.view = (plain.attribute? s name).map plain.view

/-- The bytes of a text that has no letters but those of the oldest code. -/
def bytesOf (s : String) : List UInt8 := s.toList.map fun c => c.toNat.toUInt8

/-- A directory with two modules, and a finder that takes them if they ask for it. -/
def nest (feeder seed : String) : Surroundings :=
  ⟨⟨[(["nest", "feeder.py"], .file (bytesOf feeder)), (["nest", "seed.py"], .file (bytesOf seed))],
    []⟩, ⟨.slash, ["nest"]⟩, [⟨[⟨.slash, ["nest"]⟩], []⟩]⟩

/-- A text that can be read and opened, and that begins with its one marker. -/
theorem exists_markedOnce {source : String} (hasks : asksToOpen source = true)
    (h : ((readModule source).toOption.any fun tree => decide (
      Gives (openTree tree source) ∧
      (tree.body[0]?.any fun s => declaresMarker s && s.hasConstantValue) = true ∧
      ∀ s ∈ tree.body.take 0 ++ tree.body.drop 1, (Node.stmt s).Unconcerned)) = true) :
    ∃ tree, readModule source = .ok tree ∧ tree.Opens ∧ tree.MarkedOnce := by
  cases hread : readModule source with
  | error e => simp [hread, Except.toOption] at h
  | ok tree =>
      simp only [hread, Except.toOption, Option.any_some, decide_eq_true_eq] at h
      exact ⟨tree, rfl, (gives_openTree hasks).mp h.1, markedOnce_of_index 0 h.2.1 h.2.2⟩

/-- An annotation in a function is not evaluated in either run.  But where annotations are left
alone, none may bind a name. -/
theorem not_gives_opened_walrus :
    let source := "mockingbird = None\ndef f():\n    y: (z := 1) = 2\n"
    let run (tree : Except Reason (Module × Bool)) :=
      outcome (runModule ((nest source "").load 3) "feeder" none none tree) .empty
    asksToOpen source = true ∧ Gives (run (Surroundings.plainTree source)).1 ∧
      ¬ Gives (run (Surroundings.openedTree source)).1 := by
  decide +kernel

end Standin
