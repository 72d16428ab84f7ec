/-
The lists of names that a registry is given.

The names come from the table of the module, the marker left out: the table has a row for each name,
so no name comes twice, and those that may be assigned again are some of all names in the same
order.  A final declaration that loses its qualifier has bound its name, so the name is among them.

From there to the statement they pass through a template, in which names stand for the two lists.
A list is written as texts and not as names, and what has been filled in is not looked into again;
so a name of the module that is spelled like a placeholder is filled by nothing, and a second filling
would change nothing either (`fillNames_registryStatement`).
-/
import Standin.Proofs.NameTable
import Standin.Proofs.Placing

set_option autoImplicit false

namespace Standin

open Source

/-! ## The statement and its template -/

section Fill

variable {fillers : Table Record}

/-- A list of texts has no names in it to be filled. -/
theorem fillNames_textList (names : List String) (place : Span) :
    (textList names place).record.fillNames fillers = (textList names place).record := by
  have htexts : fillItems fillers
        (exprRecords (names.map fun name => .constant (.text name) false place)) =
      exprRecords (names.map fun name => .constant (.text name) false place) := by
    induction names with
    | nil => rfl
    | cons name names ih =>
        rw [List.map_cons, exprRecords, fillItems, ih]
        rfl
  simp [textList, Expr.record, Record.fillNames, fillFields, nodeFiller?, Record.ofUsage, htexts]

/-- **Nothing in the registry's statement counts as a placeholder**, whatever the names in its lists
are. -/
theorem fillNames_registryStatement (bindings mutables : List String) (place : Span) :
    (registryStatement bindings mutables place).record.fillNames fillers =
      (registryStatement bindings mutables place).record := by
  obtain ⟨hmarker, himport, hglobals, -⟩ := isPlaceholder_given
  simp [registryStatement, registryClass, Stmt.record, Stmt.className, Stmt.span, Stmt.fields,
    Expr.record, exprRecords, keywordRecords, Record.ofText?, Record.ofUsage, Record.fillNames,
    fillItems, fillFields, nodeFiller?, filler?, fillNames_textList, hmarker, himport, hglobals]

end Fill

/-- That a statement creates a registry that is given these lists of names. -/
structure Source.Stmt.CreatesRegistry (s : Stmt) (bindings mutables : List String) (place : Span) :
    Prop where
  /-- It is the template, read and moved, with the lists in the places of the placeholders. -/
  filled : s.record = registryRecord bindings mutables place
  /-- The lists can be read back from it. -/
  lists : ∃ value, s = .assign [.name markerName .store place] value place ∧
    creationLists? value = some (bindings, mutables)
  /-- Nothing in it is a placeholder any more. -/
  settled : ∀ fillers, s.record.fillNames fillers = s.record

theorem createsRegistry_registryStatement (bindings mutables : List String) (place : Span) :
    (registryStatement bindings mutables place).CreatesRegistry bindings mutables place where
  filled := (registryRecord_eq bindings mutables place).symm
  lists := ⟨_, rfl, creationLists?_registry bindings mutables place⟩
  settled _ := fillNames_registryStatement bindings mutables place

/-! ## The lists -/

namespace Scope

variable {s : Scope} {exclude : List String}

theorem mem_names_iff {name : String} :
    name ∈ s.names exclude ↔ name ∈ s.allNames ∧ name ∉ exclude := by
  simp [names_eq]

end Scope

/-- A table has each name once. -/
theorem nodup_names_of_scopeOf {m : Module} {scope : Scope} (h : scopeOf m = .ok scope)
    (exclude : List String) : (scope.names exclude).Nodup := by
  obtain ⟨found, -, rfl⟩ := scopeOf_eq_ok.mp h
  exact (nodup_tableOf _).filter _

/-- What a statement of the module declares final is in its table. -/
theorem mem_allNames_of_declaresFinal {m : Module} {scope : Scope} (h : scopeOf m = .ok scope)
    {s : Stmt} (hs : s ∈ m.body) {name : String} (hfinal : s.DeclaresFinalName name) :
    name ∈ scope.allNames := by
  obtain ⟨usage, place, hint, value, simple, span, rfl, -⟩ := hfinal
  have hnone := (gives_scopeOf m).mp ⟨scope, h⟩
  -- The table is there, so every annotation could be read, and the occurrences are all of it.
  obtain rfl : tableOf m.occurrences = scope := by
    simpa [scopeOf_eq_tableOf hnone] using h
  have hbinds : m.Binds ⟨name, hint.declares,
      .stmt (.annAssign (.name name usage place) hint (some value) simple span)⟩ :=
    ⟨_, hs, _, .refl, by simp [Node.own]⟩
  exact Scope.contains_iff.mp (contains_tableOf.mpr ⟨_, Module.mem_occurrences.mpr hbinds, rfl⟩)

/-- **What the registry is given.**  If the marker of a module is replaced, then the first statement
that declares it becomes one that creates a registry, and the lists in it, read back, are those of
the outcome, whatever the names are.  No name comes twice and the marker does not come at all; the
names that may be assigned again are some of all names, in the same order; and the name of every
declaration that was final is among them. -/
theorem openTree_lists {tree : Module} {source : String} {o : Outcome}
    (h : openTree tree source = .ok o) (hinjected : o.injected = true) :
    (∃ (i : Nat) (s s' : Stmt), tree.body[i]? = some s ∧ declaresMarker s = true ∧
        (∀ t ∈ tree.body.take i, declaresMarker t = false) ∧
        o.tree.body[i]? = some s' ∧ s'.CreatesRegistry o.bindings o.mutables s.span) ∧
      o.bindings.Nodup ∧ markerName ∉ o.bindings ∧ o.mutables.Sublist o.bindings ∧
      ∀ s ∈ tree.body, declaresMarker s = false →
        ∀ name, s.DeclaresFinalName name → name ∈ o.bindings := by
  have hasks : asksToOpen source = true := by
    -- Otherwise the tree stays as it is, with its marker.
    by_contra hnot
    rw [openTree, if_neg hnot] at h
    cases h
    cases hinjected
  have hopening := openTree_isOpening hasks h
  obtain ⟨scope, body, injected, hscope, -, rfl⟩ := openTree_eq_ok hasks h
  refine ⟨?statement, nodup_names_of_scopeOf hscope _, ?marker, scope.mutables_sublist _, ?final⟩
  case statement =>
    obtain ⟨marker, hmarker, hdeclares⟩ := hopening.injected_iff.mp hinjected
    have hsome : (tree.body.find? declaresMarker).isSome = true :=
      List.find?_isSome.mpr ⟨marker, hmarker, hdeclares⟩
    obtain ⟨s, hs⟩ := Option.isSome_iff_exists.mp hsome
    -- The first of the markers is the one that gives way.
    obtain ⟨hsMarker, before, after, hbody, hbefore⟩ := List.find?_eq_some_iff_append.mp hs
    have hget : tree.body[before.length]? = some s := by simp [hbody]
    have hfirst : ∀ t ∈ tree.body.take before.length, declaresMarker t = false := by
      intro t ht
      rw [hbody, List.take_left] at ht
      simpa using hbefore t ht
    exact ⟨before.length, s, _, hget, hsMarker, hfirst, hopening.marker _ s hget hsMarker hfirst,
      createsRegistry_registryStatement _ _ _⟩
  case marker =>
    rw [Scope.mem_names_iff]
    rintro ⟨-, hnot⟩
    exact hnot List.mem_cons_self
  case final =>
    intro s hs hother name hfinal
    refine Scope.mem_names_iff.mpr ⟨mem_allNames_of_declaresFinal hscope hs hfinal, ?_⟩
    obtain ⟨usage, place, hint, value, simple, span, rfl, -⟩ := hfinal
    simpa [declaresMarker, isMarkerName] using hother

/-- The lists of a module whose names are spelled like the placeholders of the template. -/
theorem openTree_lists_placeholders :
    let place : Span := ⟨⟨1, 0⟩, ⟨1, 1⟩⟩
    let number : Expr := .constant (.int 1) false place
    let tree : Module :=
      ⟨[.assign [.name "__MUTABLES__" .store place] number place,
        .assign [.name markerName .store place] number place,
        .annAssign (.name "__BINDINGS__" .store place) (.name "Final" .load place) (some number)
          true place]⟩
    ∃ o, openTree tree "mockingbird = 1\n" = .ok o ∧ o.injected = true ∧
      o.bindings = ["__MUTABLES__", "__BINDINGS__"] ∧ o.mutables = ["__MUTABLES__"] ∧
      o.bindings.Nodup ∧ o.mutables.Sublist o.bindings ∧
      ∃ (i : Nat) (s' : Stmt), o.tree.body[i]? = some s' ∧
        s'.CreatesRegistry o.bindings o.mutables place := by
  intro place number tree
  have hlists : (openTree tree "mockingbird = 1\n").toOption.map
      (fun o => (o.injected, o.bindings, o.mutables)) =
        some (true, ["__MUTABLES__", "__BINDINGS__"], ["__MUTABLES__"]) := by decide +kernel
  cases h : openTree tree "mockingbird = 1\n" with
  | error e => simp [h, Except.toOption] at hlists
  | ok o =>
      simp only [h, Except.toOption, Option.map_some, Option.some.injEq, Prod.mk.injEq] at hlists
      obtain ⟨hinjected, hbindings, hmutables⟩ := hlists
      obtain ⟨⟨i, s, s', hs, -, -, hs', hcreates⟩, hnodup, -, hsublist, -⟩ :=
        openTree_lists h hinjected
      have hplace : s.span = place := by
        have hmem := List.mem_of_getElem? hs
        simp only [tree, List.mem_cons, List.not_mem_nil, or_false] at hmem
        obtain rfl | rfl | rfl := hmem <;> rfl
      exact ⟨o, rfl, hinjected, hbindings, hmutables, hnodup, hsublist, i, s', hs',
        hplace ▸ hcreates⟩

end Standin
