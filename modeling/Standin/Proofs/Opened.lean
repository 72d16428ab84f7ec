/-
What the opening of a module changes, and when it fails.

A body is opened statement by statement (`openBody_cons_eq_ok`), and so index by index
(`opensTo_of_openBody`).  What a statement can become is told by `opensTo_cases`: the first
marker becomes the registry, a final declaration keeps its target and its value, and every
other statement stays as a whole, with all that is nested in it and all places.

That a module can be opened is told by its annotations (`Module.Opens`).  Two things are in
the way.  An annotation that is a text cannot even be tried to be read if it holds a null
character or surrogates: no table of the bindings is made then, or it cannot be told whether
a declaration is final.  And the type in a final annotation that is a text is written as a
text again, which not all types can be.  Both are failures and not answers, so that a module
that can be read is not always one that can be opened.
-/
import Standin.Opening
import Standin.Proofs.Reach

set_option autoImplicit false

namespace Standin

open Source

/-! ## Final annotations -/

/-- What stands in the brackets of a subscript. -/
def Source.Expr.inBrackets? : Expr → Option Expr
  | .subscript _ index _ _ => some index
  | _ => none

/-- That the type in a final annotation can be given: if the annotation is a text, so is its type,
and this text has to be written. -/
def Source.Expr.Reopens : Expr → Prop
  | .constant (.text s) _ _ => ∀ content, readHint s = .ok content → isFinalForm content = true →
      ∀ type ∈ content.inBrackets?, (Node.expr type).Writable
  | _ => True

/-- The type in a final annotation that is no text stands in its brackets. -/
theorem innerType_of_isFinalForm {hint : Expr} (h : isFinalForm hint = true) (fuel : Nat) :
    innerType (fuel + 1) hint = .ok (hint.inBrackets?.map .part) := by
  cases hint <;> first | rfl | simp [isFinalForm, isFinalName] at h

/-- A text is a final annotation if it can be read as one. -/
theorem isFinalHint_text_iff {s : String} {marked : Bool} {span : Span} :
    isFinalHint (.constant (.text s) marked span) = .ok true ↔
      ∃ content, readHint s = .ok content ∧ isFinalForm content = true := by
  cases hread : readHint s with
  | ok content => simp [isFinalHint, hintContent, hread, bind, Except.bind, pure, Except.pure]
  | error e =>
      cases e <;> simp [isFinalHint, hintContent, hread, bind, Except.bind, pure, Except.pure]

/-- A final annotation is a text that can be read as one, or stands there as one. -/
theorem isFinalForm_of_isFinalHint {hint : Expr} (h : isFinalHint hint = .ok true)
    (htext : ∀ s marked span, hint ≠ .constant (.text s) marked span) :
    isFinalForm hint = true := by
  unfold isFinalHint hintContent at h
  split at h
  · exact absurd rfl (htext _ _ _)
  · cases h
  · simpa [bind, Except.bind, pure, Except.pure] using h

/-- Of a text, the type is that of its content, as a text. -/
theorem typeInFinal_text {s : String} {marked : Bool} {place : Span} {content : Expr}
    (hread : readHint s = .ok content) (hfinal : isFinalForm content = true) :
    typeInFinal (.constant (.text s) marked place) =
      match content.inBrackets? with
      | none => .ok none
      | some type =>
        match type.text with
        | .error e => .error (.unwritable e)
        | .ok text => .ok (some (.text text)) := by
  have hinner := innerType_of_isFinalForm hfinal s.length
  unfold typeInFinal hintLength innerType
  simp only [hread, hinner]
  cases content.inBrackets? <;> rfl

/-- The type in a final annotation, where it can be given: there is none, or it is what stands in
the brackets, or it is a new text, if the annotation is one. -/
theorem typeInFinal_cases {hint : Expr} {type : Option GivenType}
    (hfinal : isFinalHint hint = .ok true) (h : typeInFinal hint = .ok type) :
    hint.inBrackets? = none ∧ type = none ∨
      (∃ qualifier inner usage place,
        hint = .subscript qualifier inner usage place ∧ type = some (.part inner)) ∨
      ∃ s marked place text,
        hint = .constant (.text s) marked place ∧ type = some (.text text) := by
  -- The type in a text has to be written as a text again; any other one is taken as it stands.
  by_cases htext : ∃ s marked place, hint = .constant (.text s) marked place
  · obtain ⟨s, marked, place, rfl⟩ := htext
    obtain ⟨content, hread, hform⟩ := isFinalHint_text_iff.mp hfinal
    rw [typeInFinal_text hread hform] at h
    split at h
    · exact .inl ⟨rfl, (Except.ok.inj h).symm⟩
    · split at h
      · cases h
      · next text _ =>
        exact .inr (.inr ⟨s, marked, place, text, rfl, (Except.ok.inj h).symm⟩)
  · have hform : isFinalForm hint = true :=
      isFinalForm_of_isFinalHint hfinal fun s marked place heq => htext ⟨s, marked, place, heq⟩
    rw [typeInFinal, innerType_of_isFinalForm hform] at h
    cases Except.ok.inj h
    cases hint with
    | subscript qualifier inner usage place =>
        exact .inr (.inl ⟨qualifier, inner, usage, place, rfl, rfl⟩)
    | _ => exact .inl ⟨rfl, rfl⟩

/-- The type in a final annotation is given exactly if the annotation reopens. -/
theorem gives_typeInFinal {hint : Expr} (h : isFinalHint hint = .ok true) :
    Gives (typeInFinal hint) ↔ hint.Reopens := by
  unfold Expr.Reopens
  split
  · next s marked place =>
    obtain ⟨content, hread, hfinal⟩ := isFinalHint_text_iff.mp h
    rw [typeInFinal_text hread hfinal]
    cases htype : content.inBrackets? with
    | none => simp [hread, htype]
    | some type =>
        have hwrite := gives_exprText type
        cases htext : type.text <;> simp_all
  · next hint htext =>
    have hform := isFinalForm_of_isFinalHint h htext
    simp [typeInFinal, innerType_of_isFinalForm hform]

/-! ## Declarations -/

/-- That it can be decided of a statement how it is opened, and that it can be opened: of a
declaration with a value, that its annotation is not sealed, and that it reopens if it is final. -/
def Source.Stmt.Opens : Stmt → Prop
  | .annAssign _ hint (some _) _ _ => ¬ hint.IsSealed ∧ (isFinalHint hint = .ok true → hint.Reopens)
  | _ => True

theorem gives_reassignable {target hint value : Expr} {simple : Bool} {span : Span}
    (h : isFinalHint hint = .ok true) :
    Gives (reassignable target hint value simple span) ↔ hint.Reopens := by
  rw [← gives_typeInFinal h]
  unfold reassignable
  split <;> simp_all

/-- A statement is opened exactly if its annotation lets it. -/
theorem gives_openDeclaration (s : Stmt) : Gives (openDeclaration s) ↔ s.Opens := by
  unfold openDeclaration
  split
  · next target hint value simple span =>
    simp only [Stmt.Opens, ← gives_isFinalHint]
    cases h : isFinalHint hint with
    | error e => simp
    | ok final => cases final <;> simp [gives_reassignable, h]
  · next hother =>
    unfold Stmt.Opens
    split
    · exact absurd rfl (hother _ _ _ _ _)
    · simp

/-- A body is opened exactly if the annotations of its declarations let it; of markers they are not
asked. -/
theorem gives_openBody (bindings mutables : List String) (injected : Bool) (body : List Stmt) :
    Gives (openBody bindings mutables injected body) ↔
      ∀ s ∈ body, declaresMarker s = false → s.Opens := by
  induction body generalizing injected with
  | nil => simp [openBody]
  | cons s rest ih =>
      rw [openBody, List.forall_mem_cons]
      split
      · next hmarker =>
        -- A marker is replaced without a look at its annotation.
        rw [← ih true]
        cases openBody bindings mutables true rest <;> simp [hmarker]
      · next hmarker =>
        rw [← ih injected, ← gives_openDeclaration]
        cases openDeclaration s <;> cases openBody bindings mutables injected rest <;>
          simp [hmarker]

/-- What becomes of a statement, given whether the marker has been replaced before it: the first
marker becomes the registry, later ones stay, and any other statement is opened for itself. -/
def OpensTo (bindings mutables : List String) (injected : Bool) (s s' : Stmt) : Prop :=
  if declaresMarker s then s' = if injected then s else registryStatement bindings mutables s.span
  else openDeclaration s = .ok s'

theorem opensTo_marker {bindings mutables : List String} {injected : Bool} {s s' : Stmt}
    (h : declaresMarker s = true) : OpensTo bindings mutables injected s s' ↔
      s' = if injected then s else registryStatement bindings mutables s.span := by
  rw [OpensTo, if_pos h]

theorem opensTo_other {bindings mutables : List String} {injected : Bool} {s s' : Stmt}
    (h : declaresMarker s = false) :
    OpensTo bindings mutables injected s s' ↔ openDeclaration s = .ok s' := by
  rw [OpensTo, if_neg (by simp [h])]

/-- A body is opened statement by statement. -/
theorem openBody_cons_eq_ok {bindings mutables : List String} {injected done : Bool} {s : Stmt}
    {rest opened : List Stmt}
    (h : openBody bindings mutables injected (s :: rest) = .ok (opened, done)) :
    ∃ s' rest', opened = s' :: rest' ∧ OpensTo bindings mutables injected s s' ∧
      openBody bindings mutables (injected || declaresMarker s) rest = .ok (rest', done) := by
  rw [openBody] at h
  unfold OpensTo
  split at h
  · next hmarker =>
    rw [hmarker, Bool.or_true]
    cases hrest : openBody bindings mutables true rest with
    | error e => simp [hrest] at h
    | ok found =>
        obtain ⟨rest', done'⟩ := found
        simp only [hrest, Except.ok.injEq, Prod.mk.injEq] at h
        obtain ⟨rfl, rfl⟩ := h
        exact ⟨_, rest', rfl, rfl, rfl⟩
  · next hmarker =>
    rw [Bool.eq_false_iff.mpr hmarker, Bool.or_false]
    cases hs : openDeclaration s with
    | error e => simp [hs] at h
    | ok s' =>
        cases hrest : openBody bindings mutables injected rest with
        | error e => simp [hs, hrest] at h
        | ok found =>
            obtain ⟨rest', done'⟩ := found
            simp only [hs, hrest, Except.ok.injEq, Prod.mk.injEq] at h
            obtain ⟨rfl, rfl⟩ := h
            exact ⟨s', rest', rfl, rfl, rfl⟩

/-- **A body is opened index by index.** -/
theorem opensTo_of_openBody {bindings mutables : List String} {injected done : Bool}
    {body opened : List Stmt} (h : openBody bindings mutables injected body = .ok (opened, done))
    {i : Nat} {s : Stmt} (hs : body[i]? = some s) :
    ∃ s', opened[i]? = some s' ∧
      OpensTo bindings mutables (injected || (body.take i).any declaresMarker) s s' := by
  induction body generalizing injected opened i with
  | nil => simp at hs
  | cons t rest ih =>
      obtain ⟨t', rest', rfl, ht, hrest⟩ := openBody_cons_eq_ok h
      cases i with
      | zero =>
          cases hs
          exact ⟨t', rfl, by simpa using ht⟩
      | succ i =>
          obtain ⟨s', hs', hopens⟩ := ih hrest (i := i) (by simpa using hs)
          exact ⟨s', by simpa using hs', by simpa [Bool.or_assoc] using hopens⟩

/-- The opened body is as long, and the marker is replaced if there is one. -/
theorem length_and_injected_of_openBody {bindings mutables : List String} {injected done : Bool}
    {body opened : List Stmt} (h : openBody bindings mutables injected body = .ok (opened, done)) :
    opened.length = body.length ∧ done = (injected || body.any declaresMarker) := by
  induction body generalizing injected opened with
  | nil =>
      cases h
      simp
  | cons s rest ih =>
      obtain ⟨s', rest', rfl, -, hrest⟩ := openBody_cons_eq_ok h
      obtain ⟨hlength, hdone⟩ := ih hrest
      simp [hlength, hdone, Bool.or_assoc]

/-! ## The statement that creates the registry -/

section Registry

variable {P : Node → Prop} {span : Span}

theorem every_textList (htext : ∀ s, P (.expr (.constant (.text s) false span)))
    (hlist : ∀ es, P (.expr (.list es .load span))) (names : List String) :
    (Node.expr (textList names span)).Every Node.children P := by
  refine Node.every_iff.mpr ⟨hlist _, fun m hm => ?_⟩
  simp only [textList, Node.children, Node.ofExpr, Node.ofExprs, List.map_map, List.mem_map] at hm
  obtain ⟨name, -, rfl⟩ := hm
  exact Node.every_of_no_children (htext name) rfl

theorem every_call {f : Expr} {args : List Expr} {keywords : List Keyword}
    (hcall : P (.expr (.call f args keywords span)))
    (hf : (Node.expr f).Every Node.children P)
    (hargs : ∀ e ∈ args, (Node.expr e).Every Node.children P)
    (hkeywords : ∀ k ∈ keywords, (Node.keyword k).Every Node.children P) :
    (Node.expr (.call f args keywords span)).Every Node.children P := by
  refine Node.every_iff.mpr ⟨hcall, fun m hm => ?_⟩
  simp only [Node.children, Node.ofExpr, Node.ofExprs, List.mem_cons, List.mem_append,
    List.mem_map] at hm
  obtain rfl | ⟨e, he, rfl⟩ | ⟨k, hk, rfl⟩ := hm
  · exact hf
  · exact hargs e he
  · exact hkeywords k hk

/-- The class of the registry is an attribute of what importing gives. -/
theorem every_registryClass (hname : ∀ id usage, P (.expr (.name id usage span)))
    (htext : ∀ s, P (.expr (.constant (.text s) false span)))
    (hlist : ∀ es, P (.expr (.list es .load span)))
    (hcall : ∀ f args keywords, P (.expr (.call f args keywords span)))
    (hclass : ∀ e, P (.expr (.attribute e "Mockingbird" .load span)))
    (hkeyword : ∀ arg e, P (.keyword ⟨arg, e, span⟩)) :
    (Node.expr (registryClass span)).Every Node.children P := by
  have hfromList : (Node.keyword ⟨some "fromlist", textList ["Mockingbird"] span, span⟩).Every
      Node.children P := by
    refine Node.every_iff.mpr ⟨hkeyword _ _, fun m hm => ?_⟩
    obtain rfl := List.mem_singleton.mp hm
    exact every_textList htext hlist _
  refine Node.every_iff.mpr ⟨hclass _, fun m hm => ?_⟩
  obtain rfl := List.mem_singleton.mp hm
  apply every_call (hcall _ _ _) (Node.every_of_no_children (hname _ _) rfl)
  · intro e he
    obtain rfl := List.mem_singleton.mp he
    exact Node.every_of_no_children (htext _) rfl
  · intro k hk
    obtain rfl := List.mem_singleton.mp hk
    exact hfromList

/-- **What holds of all nodes of the statement that creates the registry**: whatever holds of the
few forms of node that it is made of, wherever they stand in it. -/
theorem every_registryStatement
    (hname : ∀ id usage, P (.expr (.name id usage span)))
    (htext : ∀ s, P (.expr (.constant (.text s) false span)))
    (hlist : ∀ es, P (.expr (.list es .load span)))
    (hcall : ∀ f args keywords, P (.expr (.call f args keywords span)))
    (hclass : ∀ e, P (.expr (.attribute e "Mockingbird" .load span)))
    (hkeyword : ∀ arg e, P (.keyword ⟨arg, e, span⟩))
    (hassign : ∀ targets e, P (.stmt (.assign targets e span)))
    (bindings mutables : List String) :
    (Node.stmt (registryStatement bindings mutables span)).Every Node.children P := by
  have hlists := every_textList htext hlist
  have hnames : ∀ id usage, (Node.expr (.name id usage span)).Every Node.children P :=
    fun id usage => Node.every_of_no_children (hname id usage) rfl
  have hregistry := every_registryClass hname htext hlist hcall hclass hkeyword
  have hglobals : (Node.expr (.call (.name "globals" .load span) [] [] span)).Every
      Node.children P :=
    every_call (hcall _ _ _) (hnames _ _) (fun e he => absurd he List.not_mem_nil)
      fun k hk => absurd hk List.not_mem_nil
  refine Node.every_iff.mpr ⟨hassign _ _, fun m hm => ?_⟩
  simp only [registryStatement, Node.children, Node.ofStmt, Node.ofExprs, List.map_cons,
    List.map_nil, List.cons_append, List.nil_append, List.mem_cons, List.not_mem_nil,
    or_false] at hm
  obtain rfl | rfl := hm
  · exact hnames _ _
  · apply every_call (hcall _ _ _) hregistry
    · intro e he
      simp only [List.mem_cons, List.not_mem_nil, or_false] at he
      obtain rfl | rfl | rfl := he
      · exact hlists _
      · exact hlists _
      · exact hglobals
    · intro k hk
      exact absurd hk List.not_mem_nil

end Registry

/-! ## Modules -/

/-- That a module can be opened, as its annotations say: none in its scope is sealed, and of its own
statements each can be opened, but for the markers, which are not looked into. -/
structure Source.Module.Opens (m : Module) : Prop where
  scope : ∀ s ∈ m.body, (Node.stmt s).Every Node.inScope (¬ ·.Sealed)
  body : ∀ s ∈ m.body, declaresMarker s = false → s.Opens

/-- That a statement declares a final binding with a value. -/
def Source.Stmt.DeclaresFinal (s : Stmt) : Prop :=
  ∃ target hint value simple span, s = .annAssign target hint (some value) simple span ∧
    isFinalHint hint = .ok true

/-- That an outcome is the opening of a module and of nothing else in it.  Statements are compared
whole, with everything nested in them and all places. -/
structure Outcome.IsOpening (o : Outcome) (m : Module) : Prop where
  opened : o.opened = true
  injected_iff : o.injected = true ↔ ∃ s ∈ m.body, declaresMarker s = true
  length_eq : o.tree.body.length = m.body.length
  /-- The first marker is the registry. -/
  marker : ∀ (i : Nat) s, m.body[i]? = some s → declaresMarker s = true →
    (∀ t ∈ m.body.take i, declaresMarker t = false) →
    o.tree.body[i]? = some (registryStatement o.bindings o.mutables s.span)
  /-- A final declaration has its target and its value, and may be assigned again. -/
  final : ∀ (i : Nat) target hint value simple span,
    m.body[i]? = some (Stmt.annAssign target hint (some value) simple span) →
    isMarkerName target = false → isFinalHint hint = .ok true →
    o.tree.body[i]? = some (Stmt.assign [target] value span) ∨
      ∃ inner, o.tree.body[i]? = some (Stmt.annAssign target inner (some value) simple span)
  /-- Later markers stay. -/
  laterMarker : ∀ (i : Nat) s, m.body[i]? = some s → declaresMarker s = true →
    (∃ t ∈ m.body.take i, declaresMarker t = true) → o.tree.body[i]? = some s
  /-- Everything else stays. -/
  other : ∀ (i : Nat) s, m.body[i]? = some s → declaresMarker s = false → ¬ s.DeclaresFinal →
    o.tree.body[i]? = some s

/-- What an opened module is made of. -/
theorem openTree_eq_ok {tree : Module} {source : String} {o : Outcome}
    (hasks : asksToOpen source = true) (h : openTree tree source = .ok o) :
    ∃ scope body injected, scopeOf tree = .ok scope ∧
      openBody (scope.names [markerName]) (scope.mutables [markerName]) false tree.body =
        .ok (body, injected) ∧
      o = ⟨true, injected, scope.names [markerName], scope.mutables [markerName], ⟨body⟩⟩ := by
  unfold openTree at h
  rw [if_pos hasks] at h
  split at h
  · cases h
  · next scope hscope =>
    dsimp only at h
    split at h
    · cases h
    · next body injected hbody =>
      cases h
      exact ⟨scope, body, injected, hscope, hbody, rfl⟩

/-- A module that asks for it is opened exactly if its annotations let it. -/
theorem gives_openTree {tree : Module} {source : String} (hasks : asksToOpen source = true) :
    Gives (openTree tree source) ↔ tree.Opens := by
  have hscope := gives_scopeOf tree
  unfold openTree
  rw [if_pos hasks]
  cases htable : scopeOf tree with
  | error e =>
      have hsealed : ¬ tree.Opens := fun h => by simpa [htable] using hscope.mpr h.scope
      simpa using hsealed
  | ok scope =>
      have hbody := gives_openBody (scope.names [markerName]) (scope.mutables [markerName]) false
        tree.body
      have hscope := hscope.mp ⟨scope, htable⟩
      have hopens : tree.Opens ↔ ∀ s ∈ tree.body, declaresMarker s = false → s.Opens :=
        ⟨Module.Opens.body, fun h => ⟨hscope, h⟩⟩
      rw [hopens, ← hbody]
      dsimp only
      split <;> simp_all

/-- A statement that declares nothing final stays as it is. -/
theorem openDeclaration_of_not_final {s s' : Stmt} (h : openDeclaration s = .ok s')
    (hs : ¬ s.DeclaresFinal) : s' = s := by
  unfold openDeclaration at h
  split at h
  · next target hint value simple span =>
    split at h
    · cases h
    · next hfinal => exact absurd ⟨target, hint, value, simple, span, rfl, hfinal⟩ hs
    · exact (Except.ok.inj h).symm
  · exact (Except.ok.inj h).symm

/-- A final declaration has its target and its value in any case, and its annotation is the type, if
there is one: what stood in the brackets, or a new text. -/
theorem openDeclaration_of_final {target hint value : Expr} {simple : Bool} {span : Span}
    {s' : Stmt} (h : openDeclaration (.annAssign target hint (some value) simple span) = .ok s')
    (hfinal : isFinalHint hint = .ok true) :
    hint.inBrackets? = none ∧ s' = .assign [target] value span ∨
      (∃ qualifier inner usage place, hint = .subscript qualifier inner usage place ∧
        s' = .annAssign target inner (some value) simple span) ∨
      ∃ s marked place text, hint = .constant (.text s) marked place ∧
        s' = .annAssign target (.constant (.text text) false span) (some value) simple span := by
  simp only [openDeclaration, hfinal, reassignable] at h
  -- Without its type the declaration could not be opened at all.
  cases htype : typeInFinal hint with
  | error e => simp [htype] at h
  | ok type =>
      rw [htype] at h
      obtain ⟨hnone, rfl⟩ | ⟨qualifier, inner, usage, place, rfl, rfl⟩ |
        ⟨s, marked, place, text, rfl, rfl⟩ := typeInFinal_cases hfinal htype
      · exact .inl ⟨hnone, (Except.ok.inj h).symm⟩
      · exact .inr (.inl ⟨qualifier, inner, usage, place, rfl, (Except.ok.inj h).symm⟩)
      · exact .inr (.inr ⟨s, marked, place, text, rfl, (Except.ok.inj h).symm⟩)

/-- It keeps its target and its value. -/
theorem openDeclaration_keeps {target hint value : Expr} {simple : Bool} {span : Span}
    {s' : Stmt} (h : openDeclaration (.annAssign target hint (some value) simple span) = .ok s')
    (hfinal : isFinalHint hint = .ok true) :
    s' = .assign [target] value span ∨
      ∃ inner, s' = .annAssign target inner (some value) simple span := by
  obtain ⟨-, rfl⟩ | ⟨_, inner, _, _, -, rfl⟩ | ⟨_, _, _, text, -, rfl⟩ :=
    openDeclaration_of_final h hfinal
  · exact .inl rfl
  · exact .inr ⟨inner, rfl⟩
  · exact .inr ⟨_, rfl⟩

/-- **What a statement can become**: it stays, the first marker gives way to the registry, or a
final declaration is opened. -/
theorem opensTo_cases {bindings mutables : List String} {injected : Bool} {s s' : Stmt}
    (h : OpensTo bindings mutables injected s s') :
    (declaresMarker s = false → ¬ s.DeclaresFinal) ∧ s' = s ∨
      (injected = false ∧ declaresMarker s = true ∧
        s' = registryStatement bindings mutables s.span) ∨
      declaresMarker s = false ∧ s.DeclaresFinal ∧ openDeclaration s = .ok s' := by
  cases hmarker : declaresMarker s with
  | true =>
      obtain rfl := (opensTo_marker hmarker).mp h
      cases injected with
      | true => exact .inl ⟨nofun, rfl⟩
      | false => exact .inr (.inl ⟨rfl, rfl, rfl⟩)
  | false =>
      have hopened := (opensTo_other hmarker).mp h
      by_cases hfinal : s.DeclaresFinal
      · exact .inr (.inr ⟨rfl, hfinal, hopened⟩)
      · exact .inl ⟨fun _ => hfinal, openDeclaration_of_not_final hopened hfinal⟩

/-- What a statement of a body becomes is in the opened body. -/
theorem exists_mem_opened {bindings mutables : List String} {injected done : Bool}
    {body opened : List Stmt} (h : openBody bindings mutables injected body = .ok (opened, done))
    {s : Stmt} (hs : s ∈ body) :
    ∃ injected', ∃ s' ∈ opened, OpensTo bindings mutables injected' s s' := by
  obtain ⟨i, hi⟩ := List.mem_iff_getElem?.mp hs
  obtain ⟨s', hs', hopens⟩ := opensTo_of_openBody h hi
  exact ⟨_, s', List.mem_of_getElem? hs', hopens⟩

/-- There is nothing else in it. -/
theorem exists_mem_of_mem_opened {bindings mutables : List String} {injected done : Bool}
    {body opened : List Stmt} (h : openBody bindings mutables injected body = .ok (opened, done))
    {s' : Stmt} (hs' : s' ∈ opened) :
    ∃ injected', ∃ s ∈ body, OpensTo bindings mutables injected' s s' := by
  obtain ⟨i, hi, hget⟩ := List.getElem_of_mem hs'
  rw [(length_and_injected_of_openBody h).1] at hi
  obtain ⟨s'', hs'', hopens⟩ := opensTo_of_openBody h (List.getElem?_eq_getElem hi)
  have hs' : opened[i]? = some s' := List.getElem?_eq_some_iff.mpr ⟨_, hget⟩
  obtain rfl : s'' = s' := Option.some.inj (hs''.symm.trans hs')
  exact ⟨_, _, List.getElem_mem hi, hopens⟩

/-- What is opened is opened at the first marker and at the final declarations, and nowhere else. -/
theorem openTree_isOpening {tree : Module} {source : String} {o : Outcome}
    (hasks : asksToOpen source = true) (h : openTree tree source = .ok o) : o.IsOpening tree := by
  obtain ⟨scope, body, injected, -, hbody, rfl⟩ := openTree_eq_ok hasks h
  obtain ⟨hlength, hinjected⟩ := length_and_injected_of_openBody hbody
  refine ⟨rfl, by simp [hinjected], hlength, ?marker, ?final, ?laterMarker, ?other⟩
  case marker =>
    intro i s hs hmarker hfirst
    obtain ⟨s', hs', hopens⟩ := opensTo_of_openBody hbody hs
    have hnone : (tree.body.take i).any declaresMarker = false := by simpa using hfirst
    rw [opensTo_marker hmarker, hnone] at hopens
    rw [hs', hopens]
    rfl
  case final =>
    intro i target hint value simple span hs hmarker hfinal
    obtain ⟨s', hs', hopens⟩ := opensTo_of_openBody hbody hs
    have hdeclares : declaresMarker (.annAssign target hint (some value) simple span) = false :=
      hmarker
    rw [opensTo_other hdeclares] at hopens
    obtain rfl | ⟨inner, rfl⟩ := openDeclaration_keeps hopens hfinal
    · exact .inl hs'
    · exact .inr ⟨inner, hs'⟩
  case laterMarker =>
    intro i s hs hmarker hearlier
    obtain ⟨s', hs', hopens⟩ := opensTo_of_openBody hbody hs
    have hany : (tree.body.take i).any declaresMarker = true := by simpa using hearlier
    rw [opensTo_marker hmarker, hany] at hopens
    rw [hs', hopens]
    rfl
  case other =>
    intro i s hs hmarker hnot
    obtain ⟨s', hs', hopens⟩ := opensTo_of_openBody hbody hs
    rw [opensTo_other hmarker] at hopens
    rw [hs', openDeclaration_of_not_final hopens hnot]

/-- **Opening changes the first marker and the final declarations, and nothing else.**  A module
that asks for it is opened exactly if its annotations let it, and then index by index; a module that
does not ask for it is returned as it is. -/
theorem openTree_frame (tree : Module) (source : String) :
    (asksToOpen source = true → (Gives (openTree tree source) ↔ tree.Opens)) ∧
      (asksToOpen source = true → ∀ o, openTree tree source = .ok o → o.IsOpening tree) ∧
      (asksToOpen source = false → openTree tree source = .ok (.unchanged tree)) := by
  refine ⟨gives_openTree, fun hasks o h => openTree_isOpening hasks h, fun hasks => ?_⟩
  simp [openTree, hasks]

/-- A module with the marker, and with one declaration that has this annotation. -/
def feederModule (hint : Expr) : Module :=
  ⟨[.assign [.name markerName .store ⟨⟨1, 0⟩, ⟨1, 11⟩⟩] (.constant .none false ⟨⟨1, 14⟩, ⟨1, 18⟩⟩)
      ⟨⟨1, 0⟩, ⟨1, 18⟩⟩,
    .annAssign (.name "feeder" .store ⟨⟨2, 0⟩, ⟨2, 6⟩⟩) hint
      (some (.constant (.int 1) false ⟨⟨2, 22⟩, ⟨2, 23⟩⟩)) true ⟨⟨2, 0⟩, ⟨2, 23⟩⟩]⟩

/-- The final declaration of a module may be assigned again, with its type in a text. -/
theorem openTree_frame_feeder :
    let tree := feederModule (.constant (.text "Final[int]") false ⟨⟨2, 8⟩, ⟨2, 20⟩⟩)
    asksToOpen "mockingbird = None\n" = true ∧ tree.Opens ∧
      ∃ o, openTree tree "mockingbird = None\n" = .ok o ∧ o.IsOpening tree := by
  intro tree
  have hasks : asksToOpen "mockingbird = None\n" = true := by decide
  have hgives : Gives (openTree tree "mockingbird = None\n") := by decide +kernel
  obtain ⟨hopens, hframe, -⟩ := openTree_frame tree "mockingbird = None\n"
  obtain ⟨o, ho⟩ := hgives
  exact ⟨hasks, (hopens hasks).mp ⟨o, ho⟩, o, ho, hframe hasks o ho⟩

/-- An annotation that is a text with a surrogate keeps a whole module from being opened. -/
theorem not_gives_openTree :
    let tree := feederModule (.constant (.surrogates [0xd800]) false ⟨⟨2, 8⟩, ⟨2, 16⟩⟩)
    asksToOpen "mockingbird = None\n" = true ∧
      ¬ Gives (openTree tree "mockingbird = None\n") := by
  decide +kernel

/-! ## Texts -/

/-- **When a text is opened.**  A text is the result exactly if the module it is read as can be
opened and then be written, and if it is not to be opened or cannot be read, it is the text itself
that is the result. -/
theorem openText_gives (source : String) :
    (Gives (openText source) ↔
      (asksToOpen source = true → ∀ tree, readModule source = .ok tree →
        tree.Opens ∧ ∀ o, openTree tree source = .ok o →
          ∀ s ∈ o.tree.body, (Node.stmt s).Writable)) ∧
      (asksToOpen source = false → openText source = .ok source) ∧
      (∀ e, readModule source = .error e → openText source = .ok source) := by
  refine ⟨?_, fun hasks => by simp [openText, hasks], fun e he => by simp [openText, he]⟩
  by_cases hasks : asksToOpen source = true
  · cases hread : readModule source with
    | error e => simp [openText, hread]
    | ok tree =>
        have hopens : Gives (openTree tree source) ↔ tree.Opens := gives_openTree hasks
        simp only [openText, hasks, hread]
        cases htree : openTree tree source with
        | error e => simp_all
        | ok o =>
            have hwrite := gives_moduleText o.tree
            cases htext : o.tree.text <;> simp_all
  · simp [openText, hasks]

/-- A module with a final declaration is opened, so its annotations are as they should be. -/
theorem openText_gives_feeder :
    let source := "mockingbird = None\nfeeder: 'Final[int]' = 1\n"
    Gives (openText source) ∧ ∃ tree, readModule source = .ok tree ∧ tree.Opens := by
  intro source
  have hasks : asksToOpen source = true := by decide
  have hgives : Gives (openText source) := by decide +kernel
  have hread : Gives (readModule source) := by decide
  obtain ⟨tree, htree⟩ := hread
  exact ⟨hgives, tree, htree, ((openText_gives source).1.mp hgives hasks tree htree).1⟩

/-- An annotation that is a text with a null character makes the opening of a text fail. -/
theorem not_gives_openText :
    ¬ ∀ source, ∃ text, openText source = .ok text := by
  intro h
  have hfails : ¬ Gives (openText "mockingbird = None\nX: '\\0' = 1\n") := by decide +kernel
  exact hfails (h _)

end Standin
