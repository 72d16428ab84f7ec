/-
Where the places of an opened module come from.

A module is opened as a whole, with the place of everything that is new written beside it
(`openTree`), or step by step, where what is new has no place until it is given one (`openRecord`).
Both give the same tree (`openRecord_eq`).  What has to be seen is that the last step, which gives
every node without a place that of the node around it, is the right thing for the one node that is
left without a place, the text of a type, and changes nothing else: in a tree that was read no
place is missing (`placed_stmts`), so what is kept of the module keeps its places.
-/
import Standin.Opening.Template

set_option autoImplicit false

namespace Standin

open Source

/-! ## Trees in which no place is missing -/

namespace Source.Record

variable {give : Span → Option Span → Span} {outer place : Span} {cls : String}
  {fields : List (String × Record)} {items : List Record}

theorem giveItems_eq_map : giveItems give outer items = items.map (giveAll give outer) := by
  induction items with
  | nil => rfl
  | cons r items ih => rw [giveItems, ih, List.map_cons]

theorem giveFields_eq_map :
    giveFields give outer fields = fields.map fun f => (f.1, f.2.giveAll give outer) := by
  induction fields with
  | nil => rfl
  | cons f fields ih => rw [giveFields, ih, List.map_cons]

theorem moveTo_node (hcls : cls ∉ unplacedClasses) (span : Option Span) :
    (node cls span fields).moveTo place = .node cls (some place) fields :=
  congrArg (node cls · fields) (if_neg hcls)

theorem fillPlaces_list : (list items).fillPlaces outer = .list (items.map (·.fillPlaces outer)) :=
  congrArg list giveItems_eq_map

/-- A node with a place passes it on. -/
theorem fillPlaces_node (hcls : cls ∉ unplacedClasses) :
    (node cls (some place) fields).fillPlaces outer =
      .node cls (some place) (fields.map fun f => (f.1, f.2.fillPlaces place)) := by
  rw [fillPlaces, giveAll, if_neg hcls]
  exact congrArg (node cls (some place)) giveFields_eq_map

/-- What only groups others passes on the place around it. -/
theorem fillPlaces_group (hcls : cls ∈ unplacedClasses) (span : Option Span) :
    (node cls span fields).fillPlaces outer =
      .node cls span (fields.map fun f => (f.1, f.2.fillPlaces outer)) := by
  rw [fillPlaces, giveAll, if_pos hcls]
  exact congrArg (node cls span) giveFields_eq_map

/-- That no place is missing in a record, so that filling in changes nothing. -/
def Placed (r : Record) : Prop := ∀ outer, r.fillPlaces outer = r

@[simp] theorem placed_absent : Placed .absent := fun _ => rfl

@[simp] theorem placed_number (n : Int) : Placed (.number n) := fun _ => rfl

@[simp] theorem placed_text (s : String) : Placed (.text s) := fun _ => rfl

@[simp] theorem placed_literal (v : Literal) : Placed (.literal v) := fun _ => rfl

theorem placed_nil : Placed (.list []) := fun _ => rfl

theorem placed_cons {r : Record} (hr : r.Placed) (hitems : Placed (.list items)) :
    Placed (.list (r :: items)) := by
  intro outer
  have hrest := list.inj (fillPlaces_list.symm.trans (hitems outer))
  rw [fillPlaces_list, List.map_cons, hr outer, hrest]

@[simp] theorem placed_map {α : Type} {f : α → Record} (h : ∀ a, (f a).Placed) (as : List α) :
    Placed (.list (as.map f)) := by
  induction as with
  | nil => exact placed_nil
  | cons a as ih => exact placed_cons (h a) ih

theorem map_fillPlaces_of_placed (h : ∀ f ∈ fields, f.2.Placed) (outer : Span) :
    fields.map (fun f => (f.1, f.2.fillPlaces outer)) = fields := by
  refine (List.map_congr_left fun f hf => ?_).trans (List.map_id fields)
  exact Prod.ext rfl (h f hf outer)

@[simp] theorem placed_node (h : ∀ f ∈ fields, f.2.Placed) :
    Placed (.node cls (some place) fields) := by
  intro outer
  by_cases hcls : cls ∈ unplacedClasses
  · rw [fillPlaces_group hcls, map_fillPlaces_of_placed h]
  · rw [fillPlaces_node hcls, map_fillPlaces_of_placed h]

theorem placed_group (hcls : cls ∈ unplacedClasses) (h : ∀ f ∈ fields, f.2.Placed) :
    Placed (.node cls none fields) := by
  intro outer
  rw [fillPlaces_group hcls, map_fillPlaces_of_placed h]

theorem placed_ofText? (s : Option String) : (ofText? s).Placed := by
  cases s <;> simp [ofText?]

theorem placed_ofTexts (l : List String) : (ofTexts l).Placed := by
  simp [ofTexts]

theorem placed_ofUsage (u : Usage) : (ofUsage u).Placed := placed_text _

theorem placed_ofBit (b : Bool) : (ofBit b).Placed := placed_number _

theorem placed_ofAlias (a : Alias) : (ofAlias a).Placed := by
  simp [ofAlias, placed_ofText?]

end Source.Record

namespace Source

open Record

/-! ### Expressions -/

mutual

theorem placed_expr : (e : Expr) → e.record.Placed
  | .boolOp _ es _ => by simp [Expr.record, placed_exprs es]
  | .named t v _ => by simp [Expr.record, placed_expr t, placed_expr v]
  | .binary l _ r _ => by simp [Expr.record, placed_expr l, placed_expr r]
  | .unary _ e _ => by simp [Expr.record, placed_expr e]
  | .lambda ps b _ => by simp [Expr.record, placed_parameters ps, placed_expr b]
  | .conditional t b o _ => by simp [Expr.record, placed_expr t, placed_expr b, placed_expr o]
  | .dict items _ => by simp [Expr.record, placed_keys items, placed_values items]
  | .set es _ => by simp [Expr.record, placed_exprs es]
  | .comprehension _ e cs _ => by simp [Expr.record, placed_expr e, placed_clauses cs]
  | .dictComprehension k v cs _ => by
      simp [Expr.record, placed_expr k, placed_expr v, placed_clauses cs]
  | .await e _ => by simp [Expr.record, placed_expr e]
  | .yield e _ => by simp [Expr.record, placed_expr? e]
  | .yieldFrom e _ => by simp [Expr.record, placed_expr e]
  | .compare l rest _ => by simp [Expr.record, placed_expr l, placed_operands rest]
  | .call f args kws _ => by
      simp [Expr.record, placed_expr f, placed_exprs args, placed_keywords kws]
  | .formatted v _ spec _ => by
      simp [Expr.record, ofConversion, placed_expr v, placed_expr? spec]
  | .joined es _ => by simp [Expr.record, placed_exprs es]
  | .constant _ marked _ => by cases marked <;> simp [Expr.record]
  | .attribute e _ _ _ => by simp [Expr.record, placed_ofUsage, placed_expr e]
  | .subscript e i _ _ => by simp [Expr.record, placed_ofUsage, placed_expr e, placed_expr i]
  | .starred e _ _ => by simp [Expr.record, placed_ofUsage, placed_expr e]
  | .name _ _ _ => by simp [Expr.record, placed_ofUsage]
  | .list es _ _ => by simp [Expr.record, placed_ofUsage, placed_exprs es]
  | .tuple es _ _ => by simp [Expr.record, placed_ofUsage, placed_exprs es]
  | .slice l u st _ => by simp [Expr.record, placed_expr? l, placed_expr? u, placed_expr? st]

theorem placed_expr? : (e : Option Expr) → (exprRecord? e).Placed
  | none => placed_absent
  | some e => placed_expr e

theorem placed_exprs : (es : List Expr) → Placed (.list (exprRecords es))
  | [] => placed_nil
  | e :: rest => placed_cons (placed_expr e) (placed_exprs rest)

theorem placed_keys : (items : List DictItem) → Placed (.list (keyRecords items))
  | [] => placed_nil
  | ⟨key, _⟩ :: rest => placed_cons (placed_expr? key) (placed_keys rest)

theorem placed_values : (items : List DictItem) → Placed (.list (valueRecords items))
  | [] => placed_nil
  | ⟨_, value⟩ :: rest => placed_cons (placed_expr value) (placed_values rest)

theorem placed_operands : (cs : List Comparison) → Placed (.list (operandRecords cs))
  | [] => placed_nil
  | ⟨_, operand⟩ :: rest => placed_cons (placed_expr operand) (placed_operands rest)

theorem placed_clauses : (cs : List Clause) → Placed (.list (clauseRecords cs))
  | [] => placed_nil
  | ⟨target, iter, conditions, _⟩ :: rest =>
    placed_cons (placed_group (by decide) (by
      simp [placed_ofBit, placed_expr target, placed_expr iter, placed_exprs conditions]))
      (placed_clauses rest)

theorem placed_keywords : (ks : List Keyword) → Placed (.list (keywordRecords ks))
  | [] => placed_nil
  | ⟨_, value, _⟩ :: rest =>
    placed_cons (by simp [placed_ofText?, placed_expr value]) (placed_keywords rest)

theorem placed_parameter : (p : Parameter) → p.record.Placed
  | ⟨_, hint, _⟩ => by simp [Parameter.record, placed_expr? hint]

theorem placed_parameter? : (p : Option Parameter) → (parameterRecord? p).Placed
  | none => placed_absent
  | some p => placed_parameter p

theorem placed_parameterList : (ps : List Parameter) → Placed (.list (parameterRecords ps))
  | [] => placed_nil
  | p :: rest => placed_cons (placed_parameter p) (placed_parameterList rest)

theorem placed_keywordOnly : (ps : List KeywordParameter) → Placed (.list (keywordOnlyRecords ps))
  | [] => placed_nil
  | ⟨p, _⟩ :: rest => placed_cons (placed_parameter p) (placed_keywordOnly rest)

theorem placed_keywordDefaults :
    (ps : List KeywordParameter) → Placed (.list (keywordDefaultRecords ps))
  | [] => placed_nil
  | ⟨_, value⟩ :: rest => placed_cons (placed_expr? value) (placed_keywordDefaults rest)

theorem placed_parameters : (ps : Parameters) → ps.record.Placed
  | ⟨positionalOnly, positional, variadic, keywordOnly, keywordVariadic, defaults⟩ =>
    placed_group (by decide) (by
      simp [placed_parameterList positionalOnly, placed_parameterList positional,
        placed_parameter? variadic, placed_keywordOnly keywordOnly,
        placed_keywordDefaults keywordOnly, placed_parameter? keywordVariadic,
        placed_exprs defaults])

end

/-! ### Patterns -/

mutual

theorem placed_pattern : (p : Pattern) → p.record.Placed
  | .value e _ => by simp [Pattern.record, placed_expr e]
  | .singleton _ _ => by simp [Pattern.record]
  | .sequence ps _ => by simp [Pattern.record, placed_patterns ps]
  | .mapping es _ _ => by simp [Pattern.record, placed_ofText?, placed_expr, placed_entries es]
  | .cls c ps ks _ => by
      simp [Pattern.record, placed_ofTexts, placed_expr c, placed_patterns ps,
        placed_keywordPatterns ks]
  | .star _ _ => by simp [Pattern.record, placed_ofText?]
  | .capture p _ _ => by simp [Pattern.record, placed_ofText?, placed_pattern? p]
  | .either ps _ => by simp [Pattern.record, placed_patterns ps]

theorem placed_pattern? : (p : Option Pattern) → (patternRecord? p).Placed
  | none => placed_absent
  | some p => placed_pattern p

theorem placed_patterns : (ps : List Pattern) → Placed (.list (patternRecords ps))
  | [] => placed_nil
  | p :: rest => placed_cons (placed_pattern p) (placed_patterns rest)

theorem placed_entries : (es : List PatternEntry) → Placed (.list (entryRecords es))
  | [] => placed_nil
  | ⟨_, p⟩ :: rest => placed_cons (placed_pattern p) (placed_entries rest)

theorem placed_keywordPatterns :
    (ks : List KeywordPattern) → Placed (.list (keywordPatternRecords ks))
  | [] => placed_nil
  | ⟨_, p⟩ :: rest => placed_cons (placed_pattern p) (placed_keywordPatterns rest)

end

/-! ### Statements -/

theorem placed_withItem (w : WithItem) : w.record.Placed :=
  placed_group (by decide) (by simp [placed_expr, placed_expr?])

mutual

/-- The parts of a statement have their places. -/
theorem placed_fields : (s : Stmt) → ∀ f ∈ s.fields, f.2.Placed
  | .function _ _ ps body ds returns _ => by
      simp [Stmt.fields, placed_parameters ps, placed_stmts body, placed_exprs ds,
        placed_expr? returns]
  | .classDef _ bases kws body ds _ => by
      simp [Stmt.fields, placed_exprs bases, placed_keywords kws, placed_stmts body,
        placed_exprs ds]
  | .ret v _ => by simp [Stmt.fields, placed_expr? v]
  | .delete ts _ => by simp [Stmt.fields, placed_exprs ts]
  | .assign ts v _ => by simp [Stmt.fields, placed_exprs ts, placed_expr v]
  | .augAssign t _ v _ => by simp [Stmt.fields, placed_expr t, placed_expr v]
  | .annAssign t a v _ _ => by
      simp [Stmt.fields, placed_ofBit, placed_expr t, placed_expr a, placed_expr? v]
  | .for _ t i body orElse _ => by
      simp [Stmt.fields, placed_expr t, placed_expr i, placed_stmts body, placed_stmts orElse]
  | .while t body orElse _ => by
      simp [Stmt.fields, placed_expr t, placed_stmts body, placed_stmts orElse]
  | .if t body orElse _ => by
      simp [Stmt.fields, placed_expr t, placed_stmts body, placed_stmts orElse]
  | .with _ _ body _ => by simp [Stmt.fields, placed_withItem, placed_stmts body]
  | .match e cs _ => by simp [Stmt.fields, placed_expr e, placed_cases cs]
  | .raise e c _ => by simp [Stmt.fields, placed_expr? e, placed_expr? c]
  | .try _ body hs orElse final _ => by
      simp [Stmt.fields, placed_stmts body, placed_handlers hs, placed_stmts orElse,
        placed_stmts final]
  | .assert t m _ => by simp [Stmt.fields, placed_expr t, placed_expr? m]
  | .importModules _ _ => by simp [Stmt.fields, placed_ofAlias]
  | .importFrom _ _ _ _ => by simp [Stmt.fields, placed_ofText?, placed_ofAlias]
  | .global _ _ | .nonlocal _ _ => by simp [Stmt.fields, placed_ofTexts]
  | .expr e _ => by simp [Stmt.fields, placed_expr e]
  | .pass _ | .break _ | .continue _ => nofun

theorem placed_stmts : (ss : List Stmt) → Placed (.list (stmtRecords ss))
  | [] => placed_nil
  | s :: rest => placed_cons (placed_node (placed_fields s)) (placed_stmts rest)

theorem placed_handlers : (hs : List Handler) → Placed (.list (handlerRecords hs))
  | [] => placed_nil
  | ⟨type, _, body, _⟩ :: rest =>
    placed_cons (by simp [placed_ofText?, placed_expr? type, placed_stmts body])
      (placed_handlers rest)

theorem placed_cases : (cs : List MatchCase) → Placed (.list (caseRecords cs))
  | [] => placed_nil
  | ⟨p, guard, body⟩ :: rest =>
    placed_cons (placed_group (by decide) (by
      simp [placed_pattern p, placed_expr? guard, placed_stmts body])) (placed_cases rest)

end

theorem placed_stmt (s : Stmt) : s.record.Placed := placed_node (placed_fields s)

end Source

/-! ## The registry's statement -/

/-- The statement in the template, as it stands there. -/
def templateStatement : Stmt :=
  .assign [.name markerName .store ⟨⟨1, 0⟩, ⟨1, 11⟩⟩]
    (.call
      (.attribute
        (.call (.name "__import__" .load ⟨⟨1, 14⟩, ⟨1, 24⟩⟩)
          [.constant (.text "pytest_mockingbird.registry") false ⟨⟨1, 25⟩, ⟨1, 54⟩⟩]
          [⟨some "fromlist", .list [.constant (.text "Mockingbird") false ⟨⟨1, 66⟩, ⟨1, 79⟩⟩] .load
            ⟨⟨1, 65⟩, ⟨1, 80⟩⟩, ⟨⟨1, 56⟩, ⟨1, 80⟩⟩⟩] ⟨⟨1, 14⟩, ⟨1, 81⟩⟩)
        "Mockingbird" .load ⟨⟨1, 14⟩, ⟨1, 93⟩⟩)
      [.name "__BINDINGS__" .load ⟨⟨2, 4⟩, ⟨2, 16⟩⟩, .name "__MUTABLES__" .load ⟨⟨3, 4⟩, ⟨3, 16⟩⟩,
        .call (.name "globals" .load ⟨⟨4, 4⟩, ⟨4, 11⟩⟩) [] [] ⟨⟨4, 4⟩, ⟨4, 13⟩⟩]
      [] ⟨⟨1, 14⟩, ⟨5, 1⟩⟩)
    ⟨⟨1, 0⟩, ⟨5, 1⟩⟩

set_option maxRecDepth 20000 in
/-- The template can be read, and is one assignment. -/
theorem readModule_registryText : readModule registryText = .ok ⟨[templateStatement]⟩ := by
  with_unfolding_all rfl

theorem registryTemplate_eq : registryTemplate = templateStatement.record :=
  congrArg firstAssignment readModule_registryText

theorem isPlaceholder_given :
    isPlaceholder markerName = false ∧ isPlaceholder "__import__" = false ∧
      isPlaceholder "globals" = false ∧ isPlaceholder "__BINDINGS__" = true ∧
      isPlaceholder "__MUTABLES__" = true := by
  refine ⟨?_, ?_, ?_, ?_, ?_⟩ <;> decide +kernel

/-- The registry's statement as the template gives it, whatever is put for the lists. -/
theorem moveAll_template (bindings mutables : Record) (place : Span) :
    (registryTemplate.fillNames [("__BINDINGS__", bindings), ("__MUTABLES__", mutables)]).moveAll
        place =
      .node "Assign" (some place)
        [("targets", .list [(Expr.name markerName .store place).record]),
         ("value", .node "Call" (some place)
            [("func", (registryClass place).record),
             ("args", .list [bindings.moveAll place, mutables.moveAll place,
               (Expr.call (.name "globals" .load place) [] [] place).record]),
             ("keywords", .list [])])] := by
  obtain ⟨hmarker, himport, hglobals, hbindings, hmutables⟩ := isPlaceholder_given
  rw [registryTemplate_eq]
  -- What has a filler is told by the spellings alone; every other part is gone through.
  simp only [templateStatement, Stmt.record, Stmt.className, Stmt.span, Stmt.fields, Expr.record,
    exprRecords, keywordRecords, Record.ofText?, Record.ofUsage, Record.fillNames, fillItems,
    fillFields, nodeFiller?, filler?, hmarker, himport, hglobals, hbindings, hmutables,
    Table.get?_cons, String.reduceEq, Bool.false_eq_true, if_true, if_false]
  -- Moving leaves none of the template's own places.
  rfl

theorem moveAll_newTextList (names : List String) (place : Span) :
    (newTextList names).moveAll place = (textList names place).record := by
  have htexts : Record.giveItems (fun _ _ => place) place (names.map newText) =
      exprRecords (names.map fun name => .constant (.text name) false place) := by
    induction names with
    | nil => rfl
    | cons name names ih =>
        rw [List.map_cons, List.map_cons, Record.giveItems, exprRecords, ih]
        rfl
  have hlist : (newTextList names).moveAll place = .node "List" (some place)
      [("elts", .list (Record.giveItems (fun _ _ => place) place (names.map newText))),
       ("ctx", .ofUsage .load)] := rfl
  rw [hlist, htexts]
  rfl

/-- **The registry's statement is its template**, filled with the lists and moved to the marker. -/
theorem registryRecord_eq (bindings mutables : List String) (place : Span) :
    registryRecord bindings mutables place =
      (registryStatement bindings mutables place).record := by
  rw [registryRecord, registryFillers, moveAll_template, moveAll_newTextList, moveAll_newTextList]
  rfl

/-! ## The steps -/

/-- A new text that is a part of a node gets the place of that node. -/
theorem fillPlaces_record (type : GivenType) (outer : Span) :
    type.record.fillPlaces outer = (type.expr outer).record := by
  cases type with
  | part e => exact placed_expr e outer
  | text s => rfl

/-- A final declaration in its new form has the places that are still missing from itself. -/
theorem fillPlaces_reassignable (target hint value : Expr) (simple : Bool) (span outer : Span) :
    (reassignableRecord target hint value simple span).map (·.fillPlaces outer) =
      (reassignable target hint value simple span).map Stmt.record := by
  unfold reassignableRecord reassignable
  cases typeInFinal hint with
  | error e => rfl
  | ok type =>
      cases type with
      | none =>
          simp only [Record.moveTo_node (show "Assign" ∉ Record.unplacedClasses by decide)]
          exact congrArg Except.ok (placed_stmt (.assign [target] value span) outer)
      | some type =>
          -- The statement has its place by now, and gives it to the parts that have none.
          have hclass : "AnnAssign" ∉ Record.unplacedClasses := by decide
          have htarget := placed_expr target span
          have htype := fillPlaces_record type span
          have hvalue := placed_expr value span
          have hsimple := Record.placed_ofBit simple span
          simp only [Except.map, Record.moveTo_node hclass, Record.fillPlaces_node hclass,
            List.map_cons, List.map_nil, htarget, htype, hvalue, hsimple]
          rfl

theorem fillPlaces_declaration (s : Stmt) (outer : Span) :
    (declarationRecord s).map (·.fillPlaces outer) = (openDeclaration s).map Stmt.record := by
  have hkept : (Except.ok s.record : Except HintError Record).map (·.fillPlaces outer) =
      (Except.ok s).map Stmt.record := congrArg Except.ok (placed_stmt s outer)
  cases s
  case annAssign target hint value simple span =>
    cases value with
    | none => exact hkept
    | some value =>
        simp only [declarationRecord, openDeclaration]
        cases isFinalHint hint with
        | error e => rfl
        | ok final =>
            cases final with
            | false => exact hkept
            | true => exact fillPlaces_reassignable target hint value simple span outer
  all_goals exact hkept

/-- Two results that agree after a change of each are of one kind. -/
theorem map_eq_map_cases {ε α β γ : Type} {x : Except ε α} {y : Except ε β} {f : α → γ} {g : β → γ}
    (h : x.map f = y.map g) :
    (∃ e, x = .error e ∧ y = .error e) ∨ ∃ a b, x = .ok a ∧ y = .ok b ∧ f a = g b := by
  cases x <;> cases y <;> simp_all [Except.map]

/-- Of the statements of the opened module, what the steps give is the same as what they are opened
to as a whole.  By induction on the body, for either state of the marker. -/
theorem fillPlaces_body (bindings mutables : List String) (outer : Span) (body : List Stmt) :
    ∀ injected, (bodyRecords bindings mutables injected body).map
        (·.map (·.fillPlaces outer)) =
      (openBody bindings mutables injected body).map (stmtRecords ·.1) := by
  induction body with
  | nil => exact fun _ => rfl
  | cons s rest ih =>
      intro injected
      unfold bodyRecords openBody
      split
      · have hmarker : (if injected then s.record
              else registryRecord bindings mutables s.span).fillPlaces outer =
            (if injected then s else registryStatement bindings mutables s.span).record := by
          cases injected with
          | true => exact placed_stmt s outer
          | false =>
              simp only [Bool.false_eq_true, if_false]
              rw [registryRecord_eq]
              exact placed_stmt _ outer
        obtain ⟨e, hrest, hopen⟩ | ⟨rs, ⟨rest', done⟩, hrest, hopen, heq⟩ :=
          map_eq_map_cases (ih true)
        · simp only [hrest, hopen, Except.map]
        · simp only [hrest, hopen, Except.map, List.map_cons, hmarker, heq]
          rfl
      · obtain ⟨e, hs, hs'⟩ | ⟨r, s', hs, hs', hr⟩ :=
          map_eq_map_cases (fillPlaces_declaration s outer)
        · simp only [hs, hs', Except.map]
        obtain ⟨e, hrest, hopen⟩ | ⟨rs, ⟨rest', done⟩, hrest, hopen, heq⟩ :=
          map_eq_map_cases (ih injected)
        · simp only [hs, hs', hrest, hopen, Except.map]
        · simp only [hs, hs', hrest, hopen, Except.map, List.map_cons, hr, heq]
          rfl

/-- **Step by step a module is opened to the same tree.**  So the places in the tree are those that
the steps give: to a statement that of the one it replaces, to all of the registry's statement that
of the marker, and to any other new node that of the node around it. -/
theorem openRecord_eq (tree : Module) (source : String) :
    openRecord tree source = (openTree tree source).map (·.tree.record) := by
  unfold openRecord openTree
  split
  · cases scopeOf tree with
    | error e => rfl
    | ok scope =>
        dsimp only
        obtain ⟨e, hrecords, hopen⟩ | ⟨rs, ⟨body, injected⟩, hrecords, hopen, heq⟩ :=
          map_eq_map_cases (fillPlaces_body (scope.names [markerName])
            (scope.mutables [markerName]) topPlace tree.body false)
        · simp only [hrecords, hopen, Except.map]
        · have hgroup : "Module" ∈ Record.unplacedClasses := by decide
          simp only [hrecords, hopen, Except.map, Record.fillPlaces_group hgroup, List.map_cons,
            List.map_nil, Record.fillPlaces_list, heq]
          rfl
  · rfl

end Standin
