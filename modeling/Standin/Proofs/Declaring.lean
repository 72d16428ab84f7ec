/-
How a statement that declares the marker is written.

Wherever such a statement stands among the statements of a module, the tokens it was read from
begin in one of two ways: with a parenthesis, or with the marker's name and, right after it, the
sign of a value or of an annotation (`atMarker_of_moduleBody`).
-/
import Standin.Proofs.Heads
import Standin.Opening

set_option autoImplicit false

namespace Standin.Source

open Source.Parser

/-- That a parenthesis comes next, or the marker's name and the sign of a value or an annotation. -/
def Cursor.AtMarker (c : Cursor) : Prop :=
  ∃ t rest, c.tokens = t :: rest ∧
    (t.lexeme = .sign .openParen ∨
      (∃ plain, t.lexeme = .name markerName plain) ∧
        ∃ t' rest', rest = t' :: rest' ∧ (t'.lexeme = .sign .equal ∨ t'.lexeme = .sign .colon))

/-- That all statements that the parser gives and that declare the marker stand where the parser
began, and begin as they should. -/
def Marks (p : Parser Stmt) : Prop :=
  ∀ ⦃c s c'⦄, p.run c = some (s, c') → declaresMarker s = true →
    c.AtMarker ∧ s.span.start = c.start

/-- That the parser gives no statement that declares the marker. -/
def Unmarked : Parser Stmt → Prop := Returns (declaresMarker · = false)

section

variable (r : Rules) (block : Parser (List Stmt))

theorem unmarked_ifFrom (w : Reserved) (rounds : Nat) : Unmarked (ifFrom r block w rounds) := by
  cases rounds with
  | zero => exact returns_reject
  | succ rounds =>
      repeat refine returns_bind fun _ => ?_
      refine returns_ite ?_ ?_
      all_goals
        repeat refine returns_bind fun _ => ?_
        exact returns_pure rfl

theorem unmarked_whileStatement : Unmarked (whileStatement r block) := by
  repeat refine returns_bind fun _ => ?_
  exact returns_pure rfl

theorem unmarked_forStatement (start : Place) (isAsync : Bool) :
    Unmarked (forStatement r block start isAsync) := by
  repeat refine returns_bind fun _ => ?_
  exact returns_pure rfl

theorem unmarked_withStatement (start : Place) (isAsync : Bool) :
    Unmarked (withStatement r block start isAsync) := by
  repeat refine returns_bind fun _ => ?_
  exact returns_pure rfl

theorem unmarked_functionStatement (start : Place) (isAsync : Bool) (decorators : List Expr) :
    Unmarked (functionStatement r block start isAsync decorators) := by
  repeat refine returns_bind fun _ => ?_
  refine returns_ite ?_ ?_
  all_goals
    repeat refine returns_bind fun _ => ?_
    exact returns_pure rfl

theorem unmarked_classStatement (decorators : List Expr) :
    Unmarked (classStatement r block decorators) := by
  repeat refine returns_bind fun _ => ?_
  refine returns_ite ?_ ?_
  all_goals
    repeat refine returns_bind fun _ => ?_
    exact returns_pure rfl

theorem unmarked_decorated : Unmarked (decorated r block) := by
  repeat refine returns_bind fun _ => ?_
  split
  · exact unmarked_classStatement r block _
  · exact returns_bind fun _ => unmarked_functionStatement r block _ _ _
  · exact unmarked_functionStatement r block _ _ _

theorem unmarked_asyncStatement : Unmarked (asyncStatement r block) := by
  repeat refine returns_bind fun _ => ?_
  split
  · exact unmarked_forStatement r block _ _
  · exact unmarked_withStatement r block _ _
  · exact unmarked_functionStatement r block _ _ _

theorem unmarked_matchStatement : Unmarked (matchStatement r block) := by
  repeat refine returns_bind fun _ => ?_
  refine returns_ite returns_reject ?_
  repeat refine returns_bind fun _ => ?_
  exact returns_pure rfl

theorem unmarked_tryStatement : Unmarked (tryStatement r block) := by
  repeat refine returns_bind fun _ => ?_
  -- The checks at the end are the same after each of the optional blocks.
  have hend {start : Place} {body : List Stmt} {isGroup : Bool} {handlers : List Handler}
      {orElse : List Stmt} (final : Option (List Stmt)) :
      Unmarked (do
        if handlers.isEmpty && final.isNone then reject
        return .try isGroup body handlers orElse (final.getD []) (← spanFrom start)) :=
    returns_ite returns_reject (returns_bind fun _ => returns_pure rfl)
  refine returns_ite ?_ ?_
  all_goals
    repeat refine returns_bind fun _ => ?_
    refine returns_ite ?_ ?_
    all_goals
      repeat refine returns_bind fun _ => ?_
      exact hend _

theorem unmarked_importFromStatement : Unmarked (importFromStatement r) := by
  repeat refine returns_bind fun _ => ?_
  refine returns_ite (returns_ite returns_reject ?_) ?_
  all_goals
    repeat refine returns_bind fun _ => ?_
    exact returns_pure rfl

/-- A target that is the marker's name was read as that name. -/
theorem eq_name_of_asStored? {e t : Expr} (h : e.asStored? = some t) (ht : isMarkerName t = true) :
    ∃ usage span, e = .name markerName usage span := by
  unfold Expr.asStored? at h
  split at h
  case h_1 id usage span =>
    cases h
    exact ⟨usage, span, by simpa [isMarkerName] using ht⟩
  case h_4 =>
    split at h
    · cases h
    · obtain ⟨t', -, rfl⟩ := Option.map_eq_some_iff.mp h
      cases ht
  case h_5 | h_6 =>
    obtain ⟨ts, -, rfl⟩ := Option.map_eq_some_iff.mp h
    cases ht
  all_goals
    cases h
    try cases ht

theorem eq_name_of_asSingle? {e t : Expr} (h : e.asSingle? = some t) (ht : isMarkerName t = true) :
    ∃ usage span, e = .name markerName usage span := by
  unfold Expr.asSingle? at h
  split at h <;> cases h
  case h_1 id usage span => exact ⟨usage, span, by simpa [isMarkerName] using ht⟩
  all_goals cases ht

theorem of_run_assignRest {start : Place} {targets : List Expr} {rounds : Nat} {c c' : Cursor}
    {s : Stmt} (hrun : (assignRest r start targets rounds).run c = some (s, c'))
    (hs : declaresMarker s = true) (htargets : targets ≠ []) :
    ∃ t, targets = [t] ∧ isMarkerName t = true ∧ s.span.start = start := by
  induction rounds generalizing targets c with
  | zero => cases hrun
  | succ rounds ih =>
      obtain ⟨-, c₁, -, hrun⟩ := run_bind_eq_some.mp hrun
      obtain ⟨e, c₂, -, hrun⟩ := run_bind_eq_some.mp hrun
      obtain ⟨further, c₃, -, hrun⟩ := run_bind_eq_some.mp hrun
      split at hrun
      · split at hrun
        · next t _ =>
          obtain ⟨t', ht', -⟩ := ih hrun (by simp)
          simp [htargets] at ht'
        · cases hrun
      · obtain ⟨span, c₄, ⟨⟩, ⟨⟩⟩ := run_bind_eq_some.mp hrun
        unfold declaresMarker at hs
        split at hs
        · next t _ _ htarget =>
          injection htarget with htarget
          rw [List.reverse_eq_iff] at htarget
          exact ⟨t, htarget, hs, rfl⟩
        all_goals first | cases hs | contradiction

/-- Where an expression is read that is the marker's name, and the sign of a declaration comes next,
the declaration begins as it should. -/
theorem atMarker_of_readsName {c c' : Cursor} {e : Expr}
    (hbare : e.isName = true → c.ReadsName c' e)
    (he : ∃ usage span, e = .name markerName usage span)
    (hnext : c'.next = .sign .equal ∨ c'.next = .sign .colon) : c.AtMarker := by
  obtain ⟨usage, span, rfl⟩ := he
  obtain ⟨t, rest, htokens, hparen | ⟨id, plain, span', hname, ⟨⟩, rfl⟩⟩ := hbare rfl
  · exact ⟨t, rest, htokens, .inl hparen⟩
  · refine ⟨t, rest, htokens, .inr ⟨⟨plain, hname⟩, ?_⟩⟩
    cases rest with
    | nil => simp [Cursor.next, Cursor.past] at hnext
    | cons t' rest' => exact ⟨t', rest', rfl, hnext⟩

theorem marks_expressionStatement (h : Bare r.expression) : Marks (expressionStatement r) := by
  intro c s c' hrun hs
  obtain ⟨start, _, ⟨⟩, hrun⟩ := run_bind_eq_some.mp hrun
  obtain ⟨l, _, ⟨⟩, hrun⟩ := run_bind_eq_some.mp hrun
  obtain ⟨e, c₁, he, hrun⟩ := run_bind_eq_some.mp hrun
  obtain ⟨next, _, ⟨⟩, hrun⟩ := run_bind_eq_some.mp hrun
  have hbare : e.isName = true → c.ReadsName c₁ e := bare_yieldOrExpressions r h he
  split at hrun
  · next hnext =>
    split at hrun
    · next t ht =>
      obtain ⟨t', ⟨⟩, hmarker, hstart⟩ := of_run_assignRest r hrun hs (by simp)
      have hname := eq_name_of_asStored? ht hmarker
      exact ⟨atMarker_of_readsName hbare hname (.inl hnext), hstart⟩
    · cases hrun
  · next hnext =>
    split at hrun
    · cases hrun
    · next t ht =>
      obtain ⟨-, c₂, -, hrun⟩ := run_bind_eq_some.mp hrun
      obtain ⟨hint, c₃, -, hrun⟩ := run_bind_eq_some.mp hrun
      obtain ⟨signed, c₄, -, hrun⟩ := run_bind_eq_some.mp hrun
      dsimp only at hrun
      split at hrun
      all_goals
        obtain ⟨value, c₅, -, hrun⟩ := run_bind_eq_some.mp hrun
        obtain ⟨span, c₆, ⟨⟩, ⟨⟩⟩ := run_bind_eq_some.mp hrun
        have hname := eq_name_of_asSingle? ht hs
        exact ⟨atMarker_of_readsName hbare hname (.inr hnext), rfl⟩
  · -- Neither an expression alone nor an augmented assignment declares the marker.
    split at hrun
    · obtain ⟨span, c₂, -, ⟨⟩⟩ := run_bind_eq_some.mp hrun
      cases hs
    · split at hrun
      · cases hrun
      · obtain ⟨-, c₂, -, hrun⟩ := run_bind_eq_some.mp hrun
        obtain ⟨value, c₃, -, hrun⟩ := run_bind_eq_some.mp hrun
        obtain ⟨span, c₄, -, ⟨⟩⟩ := run_bind_eq_some.mp hrun
        cases hs

theorem marks_of_unmarked {p : Parser Stmt} (h : Unmarked p) : Marks p := fun _ _ _ hrun hs => by
  simp [h hrun] at hs

/-- What only looks ahead before a statement does not change where it begins. -/
theorem marks_look {α : Type} {g : Cursor → α} {f : α → Parser Stmt} (h : ∀ a, Marks (f a)) :
    Marks (look g >>= f) := fun _ _ _ hrun hs => by
  obtain ⟨a, _, ⟨⟩, hrun⟩ := run_bind_eq_some.mp hrun
  exact h _ hrun hs

theorem marks_simpleStatement (h : Bare r.expression) : Marks (simpleStatement r) := by
  refine marks_look fun start => marks_look fun l => ?_
  split
  case h_12 => exact marks_expressionStatement r h
  case h_6 => exact marks_of_unmarked (unmarked_importFromStatement r)
  all_goals
    apply marks_of_unmarked
    repeat refine returns_bind fun _ => ?_
  case h_7 =>
    split
    · exact returns_bind fun _ => returns_pure rfl
    · refine returns_bind fun _ => returns_ite ?_ ?_
      all_goals
        repeat refine returns_bind fun _ => ?_
        exact returns_pure rfl
  case h_9 =>
    refine returns_ite ?_ ?_
    all_goals
      repeat refine returns_bind fun _ => ?_
      exact returns_pure rfl
  all_goals exact returns_pure rfl

/-! ## The statements of a module -/

/-- That the parser gives statements of which each one that declares the marker stands somewhere
further on, and begins there as it should. -/
def MarksAll (p : Parser (List Stmt)) : Prop :=
  ∀ ⦃c ss c'⦄, p.run c = some (ss, c') → ∀ s ∈ ss, declaresMarker s = true →
    ∃ c₁, c.Reads c₁ ∧ c₁.AtMarker ∧ s.span.start = c₁.start

section

variable {α β : Type}

theorem exists_of_mem_many {p : Parser α} {rounds : Nat} {c c' : Cursor} {as : List α}
    (h : (many p rounds).run c = some (as, c')) {a : α} (ha : a ∈ as) :
    ∃ c₁ c₂, c.Reads c₁ ∧ p.run c₁ = some (a, c₂) := by
  induction rounds generalizing c as with
  | zero =>
      cases h
      cases ha
  | succ rounds ih =>
      obtain ⟨a?, c₁, hattempt, h⟩ := run_bind_eq_some.mp h
      cases a? with
      | none =>
          cases h
          cases ha
      | some b =>
          obtain ⟨bs, c₂, hmore, ⟨⟩⟩ := run_bind_eq_some.mp h
          have hb := run_attempt_eq_some.mp hattempt
          obtain rfl | ha := List.mem_cons.mp ha
          · exact ⟨c, c₁, .refl c, hb⟩
          · obtain ⟨c₃, c₄, hreads, hrun⟩ := ih hmore ha
            exact ⟨c₃, c₄, (p.reads hb).trans hreads, hrun⟩

theorem exists_of_mem_separated {p : Parser α} {s : Sign} {rounds : Nat} {c c' : Cursor}
    {as : List α} (h : (separated s p rounds).run c = some (as, c')) {a : α} (ha : a ∈ as) :
    ∃ c₁ c₂, c.Reads c₁ ∧ p.run c₁ = some (a, c₂) := by
  obtain ⟨b, c₁, hb, h⟩ := run_bind_eq_some.mp h
  obtain ⟨bs, c₂, hmore, ⟨⟩⟩ := run_bind_eq_some.mp h
  obtain rfl | ha := List.mem_cons.mp ha
  · exact ⟨c, c₁, .refl c, hb⟩
  · obtain ⟨c₃, c₄, hreads, hrun⟩ := exists_of_mem_many hmore ha
    obtain ⟨u, c₅, hsign, hrun⟩ := run_bind_eq_some.mp hrun
    exact ⟨c₅, c₄, ((p.reads hb).trans hreads).trans ((sign s).reads hsign), hrun⟩

end

theorem Unmarked.marksAll {p : Parser Stmt} (h : Unmarked p) :
    MarksAll (do return [← p]) := by
  intro c ss c' hrun s hs hmarker
  obtain ⟨s', c₁, hs', ⟨⟩⟩ := run_bind_eq_some.mp hrun
  obtain rfl := List.mem_singleton.mp hs
  simp [h hs'] at hmarker

theorem marksAll_look {α : Type} {g : Cursor → α} {f : α → Parser (List Stmt)}
    (h : ∀ a, MarksAll (f a)) : MarksAll (look g >>= f) := fun _ _ _ hrun => by
  obtain ⟨a, _, ⟨⟩, hrun⟩ := run_bind_eq_some.mp hrun
  exact h _ hrun

theorem marksAll_simpleStatements (h : Bare r.expression) : MarksAll (simpleStatements r) := by
  intro c ss c' hrun s hs hmarker
  obtain ⟨ss', c₁, hss, hrun⟩ := run_bind_eq_some.mp hrun
  obtain ⟨-, c₂, -, hrun⟩ := run_bind_eq_some.mp hrun
  obtain ⟨-, c₃, -, ⟨⟩⟩ := run_bind_eq_some.mp hrun
  obtain ⟨c₄, c₅, hreads, hrun⟩ := exists_of_mem_separated hss hs
  exact ⟨c₄, hreads, marks_simpleStatement r h hrun hmarker⟩

theorem marksAll_statements (h : Bare r.expression) : MarksAll (statements r block) := by
  refine marksAll_look fun start => marksAll_look fun l => ?_
  split
  · exact (unmarked_ifFrom r block _ _).marksAll
  · exact (unmarked_whileStatement r block).marksAll
  · exact (unmarked_forStatement r block _ _).marksAll
  · exact (unmarked_withStatement r block _ _).marksAll
  · exact (unmarked_tryStatement r block).marksAll
  · exact (unmarked_functionStatement r block _ _ _).marksAll
  · exact (unmarked_classStatement r block _).marksAll
  · exact (unmarked_asyncStatement r block).marksAll
  · exact (unmarked_decorated r block).marksAll
  · intro c ss c' hrun s hs hmarker
    obtain ⟨s?, c₁, hattempt, hrest⟩ := run_bind_eq_some.mp hrun
    cases s? with
    | some s' =>
        cases hrest
        obtain rfl := List.mem_singleton.mp hs
        have hs' := unmarked_matchStatement r block (run_attempt_eq_some.mp hattempt)
        simp [hs'] at hmarker
    | none =>
        obtain ⟨-, rfl⟩ := run_attempt_eq_some.mp hattempt
        exact marksAll_simpleStatements r h hrest s hs hmarker
  · exact marksAll_simpleStatements r h

/-- **Every statement of a module that declares the marker begins with a parenthesis, or with the
marker's name and the sign of a declaration.** -/
theorem atMarker_of_moduleBody (h : Bare r.expression) {c c' : Cursor} {m : Module}
    (hrun : (moduleBody r).run c = some (m, c')) {s : Stmt} (hs : s ∈ m.body)
    (hmarker : declaresMarker s = true) :
    ∃ c₁, c.Reads c₁ ∧ c₁.AtMarker ∧ s.span.start = c₁.start := by
  obtain ⟨groups, c₁, hgroups, hrun⟩ := run_bind_eq_some.mp hrun
  obtain ⟨-, c₂, -, ⟨⟩⟩ := run_bind_eq_some.mp hrun
  obtain ⟨ss, hss, hs⟩ := List.mem_flatten.mp hs
  obtain ⟨c₃, c₄, hreads, hstatements⟩ := exists_of_mem_many hgroups hss
  obtain ⟨c₅, hreads', hat⟩ := marksAll_statements r _ h hstatements s hs hmarker
  exact ⟨c₅, hreads.trans hreads', hat⟩

end

end Standin.Source
