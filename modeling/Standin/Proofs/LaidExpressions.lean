/-
Expressions are laid out where they are read.

An expression starts no earlier than the first token it is read from, ends with the last one, and is
laid out in between (`Lays`).  Each production keeps this of the productions it refers to
(`Rules.Lays`), which is all that is to be shown: the rules are tied together a step at a time, and
the expressions of replacement fields a level at a time.
-/
import Standin.Proofs.LaidStrings

set_option autoImplicit false

namespace Standin.Source

open Node
open Standin.Source.Parser (After)

/-- That the expressions which a parser reads are placed where it reads them. -/
def Lays (p : Parser Expr) : Prop :=
  ∀ c, p.After c fun e c' => (Node.expr e).Placed c.start c'.last

/-- That the rules lay out what they read. -/
structure Rules.Lays (r : Rules) : Prop where
  embedded : LaysEmbedded r.embedded
  expression : Source.Lays r.expression
  disjunction : Source.Lays r.disjunction
  negation : Source.Lays r.negation
  union : Source.Lays r.union
  factor : Source.Lays r.factor
  primary : Source.Lays r.primary

namespace Node

variable {lo lo' mid hi : Place} {n : Node}

theorem Placed.lt (h : n.Placed lo hi) : lo < hi := h.le_start.trans_lt h.start_lt

theorem Placed.mono_left (h : n.Placed lo hi) (hlo : lo' ≤ lo) : n.Placed lo' hi :=
  h.mono hlo (le_refl _)

/-- What is written before its only part is placed if that part is. -/
theorem Placed.around {m : Node} (horder : n.reorders = false) (hname : n.holdsName = false)
    (hpart : n.inScope = [m]) (hstart : n.start = lo) (hlt : lo < mid) (hm : m.Placed mid hi) :
    n.Placed lo hi :=
  .of_chain horder hname hstart.ge (hstart ▸ hlt.trans hm.lt)
    (hpart ▸ .single (hm.laid.mono_left hlt.le))

/-- What is written after its only part is placed if that part is. -/
theorem Placed.extended {m : Node} (horder : n.reorders = false) (hname : n.holdsName = false)
    (hpart : n.inScope = [m]) (hstart : n.start = lo) (hm : m.Placed lo mid) (hle : mid ≤ hi) :
    n.Placed lo hi :=
  .of_chain horder hname hstart.ge (hstart ▸ hm.lt.trans_le hle)
    (hpart ▸ .single (hm.laid.mono (le_refl _) hle))

theorem laid_name {id : String} {usage : Usage} {span : Span} (hlo : lo ≤ span.start)
    (hlt : span.start < hi) : (Node.expr (.name id usage span)).Laid lo hi :=
  .of_named rfl hlo hlt (.nil hlt.le)

end Node

section Productions

variable {r : Rules} {c : Cursor} {p : Parser Expr} {start : Place}

theorem Lays.after_last (h : Lays p) (c : Cursor) :
    p.After c fun e c' => (Node.expr e).Placed c.last c'.last :=
  .from_last (R := fun lo hi e => (Node.expr e).Placed lo hi) (fun hle h => Placed.mono_left h hle)
    (h c)

theorem Lays.laid_after_last (h : Lays p) (c : Cursor) :
    p.After c fun e c' => (Node.expr e).Laid c.last c'.last :=
  (h.after_last c).imp fun _ _ _ he => he.laid

theorem after_atNamed {Q : Bool → Cursor → Prop} (h : ∀ b, Q b c) : atNamed.After c Q := by
  refine .bind (.peek (.bind (.peekSecond fun l => ?_)))
  split <;> exact .pure (h _)

theorem after_atClause {Q : Bool → Cursor → Prop} (h : ∀ b, Q b c) : atClause.After c Q := by
  refine .bind (.peek ?_)
  split <;> exact .pure (h _)

/-! ## Lists of expressions -/

theorem lays_namedExpression (hr : r.Lays) : Lays (namedExpression r) := by
  intro c
  refine .bind (.here (.bind (after_atNamed fun b => .ite (fun _ => ?_) fun _ => ?_)))
  · refine .bind (.name fun id c₁ h₁ => .bind (.spanFrom (.bind (.sign fun c₂ h₂ => .bind ?_))))
    refine (hr.expression c₂).imp fun e c₃ _ he => .spanned ?_
    have hlt : c.start < c₂.start := h₁.lt.trans_le h₂.le_start
    exact .of_chain rfl rfl (le_refl _) (hlt.trans he.lt)
      (.pair (laid_name (le_refl _) h₁.lt) h₂.le_start he.laid)
  · refine .bind ((hr.expression c).imp fun e c₁ _ he => .bind (.nextIsSign fun _ => ?_))
    exact .ite (fun _ => .reject) fun _ => .pure he

/-- A phrase after a star, or another one. -/
theorem after_starred {q : Parser Expr} (hp : Lays p) (hq : Lays q) (c : Cursor) :
    (do
      if ← Parser.signIfNext .star then
        let e ← p
        return Expr.starred e .load (← Parser.spanFrom c.start)
      else q).After c fun e c' => (Node.expr e).Placed c.start c'.last := by
  refine .ifSign (fun c₁ h₁ => .bind ?_) (hq c)
  refine (hp c₁).imp fun e c₂ _ he => .spanned ?_
  exact .around rfl rfl rfl rfl h₁.lt_start he

theorem lays_starredOrNamed (hr : r.Lays) : Lays (starredOrNamed r) :=
  fun c => .bind (.here (after_starred hr.union (lays_namedExpression hr) c))

theorem lays_starredOrExpression (hr : r.Lays) : Lays (starredOrExpression r) :=
  fun c => .bind (.here (after_starred hr.union hr.expression c))

/-- A tuple whose first phrase is read. -/
theorem after_tupleRest (hp : Lays p) {first : Expr}
    (hfirst : (Node.expr first).Placed start c.last) :
    (do
      let rest ← Parser.many (do Parser.sign .comma; p) r.rounds
      let _ ← Parser.signIfNext .comma
      return Expr.tuple (first :: rest) .load (← Parser.spanFrom start)).After c fun e c' =>
        (Node.expr e).Placed start c'.last := by
  refine .bind ((After.laid_many_sign hp.laid_after_last).imp fun rest c₁ _ hrest => ?_)
  refine .bind (.any fun _ c₂ h₂ => .spanned ?_)
  exact .of_chain rfl rfl (le_refl _) (hfirst.lt.trans_le (hrest.le.trans h₂.le))
    (.cons hfirst.laid (hrest.mono_right h₂.le))

theorem lays_tupleOf (hp : Lays p) : Lays (tupleOf r p) := by
  intro c
  refine .bind (.here (.bind ((hp c).imp fun first c₁ _ hfirst => ?_)))
  exact .ifNext (after_tupleRest hp hfirst) (.pure hfirst)

theorem lays_starExpressions (hr : r.Lays) : Lays (starExpressions r) :=
  lays_tupleOf (lays_starredOrExpression hr)

theorem lays_yieldExpression (hr : r.Lays) : Lays (yieldExpression r) := by
  intro c
  refine .bind (.here (.bind (.word fun c₁ h₁ => .ifWord (fun c₂ h₂ => ?_) ?_)))
  · refine .bind ((hr.expression c₂).imp fun e c₃ _ he => .spanned ?_)
    have hlt := h₁.lt_start.trans h₂.lt_start
    exact .around rfl rfl rfl rfl hlt he
  · refine .bind (.attempt ((lays_starExpressions hr c₁).imp fun e c₂ _ he => ?_) ?_)
    · refine .spanned ?_
      exact .around rfl rfl rfl rfl h₁.lt_start he
    · exact .spanned (.of_chain rfl rfl (le_refl _) h₁.lt (.nil h₁.lt.le))

theorem lays_yieldOrExpressions (hr : r.Lays) : Lays (yieldOrExpressions r) :=
  fun c => .ifNext (lays_yieldExpression hr c) (lays_starExpressions hr c)

/-! ## Targets -/

theorem after_starTarget (hr : r.Lays) (c : Cursor) :
    (starTarget r).After c fun e c' => (Node.expr e).Laid c.start c'.last := by
  have hstored {e : Expr} {c' : Cursor} (he : (Node.expr e).Laid c.start c'.last) :
      (Parser.ofOption e.asStored?).After c' fun e c' => (Node.expr e).Laid c.start c'.last :=
    .ofOption fun t ht => (echoes_asStored? ht).laid he
  refine .bind (.here (.ifSign (fun c₁ h₁ => .bind ?_) (.bind ?_)))
  · refine (hr.primary c₁).imp fun e c₂ _ he => .bind (.spanFrom (.bind (.pure (hstored ?_))))
    exact .of_chain rfl rfl (.single (he.laid.mono_left h₁.lt_start.le))
  · exact (hr.primary c).imp fun e c₁ _ he => hstored he.laid

theorem after_starTargets (hr : r.Lays) (c : Cursor) :
    (starTargets r).After c fun e c' => (Node.expr e).Laid c.start c'.last := by
  have hlater (c : Cursor) : (starTarget r).After c fun e c' => (Node.expr e).Laid c.last c'.last :=
    .laid_from_last (after_starTarget hr c)
  refine .bind (.here (.bind ((after_starTarget hr c).imp fun first c₁ _ hfirst => ?_)))
  refine .ifNext ?_ (.pure hfirst)
  refine .bind ((After.laid_many_sign hlater).imp fun rest c₂ _ hrest => ?_)
  refine .bind (.any fun _ c₃ h₃ => ?_)
  exact .spanned (.of_chain rfl rfl (.cons hfirst (hrest.mono_right h₃.le)))

/-! ## Displays -/

/-- A comprehension is a scope of its own. -/
theorem placed_of_scope {e : Expr} {lo hi : Place} (horder : (Node.expr e).reorders = false)
    (hname : (Node.expr e).holdsName = false) (hscope : (Node.expr e).inScope = [])
    (hlo : lo ≤ e.span.start) (hlt : e.span.start < hi) : (Node.expr e).Placed lo hi :=
  .of_chain horder hname hlo hlt (hscope ▸ .nil (hlo.trans hlt.le))

theorem after_displayRest (hr : r.Lays) {first : Expr} {close : Sign} {form : ComprehensionForm}
    {build : List Expr → Span → Expr} (hbuild : ∀ es span hi, span.start < hi →
      LaidAll span.start hi (es.map .expr) → (Node.expr (build es span)).Placed span.start hi)
    (hstart : start < c.last) (hfirst : (Node.expr first).Laid start c.last) :
    (displayRest r start first close form build).After c fun e c' =>
      (Node.expr e).Placed start c'.last := by
  refine .bind (after_atClause fun b => .ite (fun _ => ?_) fun _ => ?_)
  · refine .ite (fun _ => .reject) fun _ => ?_
    refine .bind (.any fun clauses c₁ h₁ => .bind (.sign fun c₂ h₂ => ?_))
    refine .spanned (placed_of_scope rfl rfl rfl (le_refl _) ?_)
    exact hstart.trans_le (h₁.le.trans h₂.le)
  · have hlater := (lays_starredOrNamed hr).laid_after_last
    refine .bind ((After.laid_many_sign hlater).imp fun rest c₁ _ hrest => ?_)
    refine .bind (.any fun _ c₂ h₂ => .bind (.sign fun c₃ h₃ => .spanned ?_))
    have hle := h₂.le.trans h₃.le
    exact hbuild (first :: rest) ⟨start, c₃.last⟩ c₃.last (hstart.trans_le (hrest.le.trans hle))
      (.cons hfirst (hrest.mono_right hle))

theorem lays_parenthesized (hr : r.Lays) : Lays (parenthesized r) := by
  intro c
  refine .bind (.here (.bind (.sign fun c₁ h₁ => .bind (.peek ?_))))
  -- Nothing, a `yield`, or a phrase that may stand alone in the parentheses.
  split
  · refine .bind (.sign fun c₂ h₂ => .spanned ?_)
    have hlt : c.start < c₂.last := h₁.lt_start.trans h₂.lt
    exact .of_chain rfl rfl (le_refl _) hlt (.nil hlt.le)
  · refine .bind ((lays_yieldExpression hr c₁).imp fun e c₂ _ he => .bind (.sign fun c₃ h₃ => ?_))
    exact .pure (he.mono h₁.lt_start.le h₃.le)
  · refine .bind ((lays_starredOrNamed hr c₁).imp fun first c₂ _ hfirst => .bind (.peek ?_))
    split
    · refine .ite (fun _ => .reject) fun _ => .bind (.sign fun c₃ h₃ => .pure ?_)
      exact hfirst.mono h₁.lt_start.le h₃.le
    · exact after_displayRest hr (fun es span hi hlt h => .of_chain rfl rfl (le_refl _) hlt h)
        (h₁.lt_start.trans hfirst.lt) (hfirst.laid.mono_left h₁.lt_start.le)

theorem lays_bracketed (hr : r.Lays) : Lays (bracketed r) := by
  intro c
  refine .bind (.here (.bind (.sign fun c₁ h₁ => .ifSign (fun c₂ h₂ => ?_) ?_)))
  · have hlt : c.start < c₂.last := h₁.lt_start.trans h₂.lt
    exact .spanned (.of_chain rfl rfl (le_refl _) hlt (.nil hlt.le))
  · refine .bind ((lays_starredOrNamed hr c₁).imp fun first c₂ _ hfirst => ?_)
    exact after_displayRest hr (fun es span hi hlt h => .of_chain rfl rfl (le_refl _) hlt h)
      (h₁.lt_start.trans hfirst.lt) (hfirst.laid.mono_left h₁.lt_start.le)

theorem after_dictItem (hr : r.Lays) (c : Cursor) :
    (dictItem r).After c fun i c' => LaidAll c.start c'.last (ofItem i) := by
  refine .ifSign (fun c₁ h₁ => .bind ?_) (.bind ?_)
  · refine (hr.union c₁).imp fun value c₂ _ hvalue => .pure ?_
    exact .single (hvalue.laid.mono_left h₁.lt_start.le)
  · refine (hr.expression c).imp fun key c₁ _ hkey => .bind (.sign fun c₂ h₂ => .bind ?_)
    refine (hr.expression c₂).imp fun value c₃ _ hvalue => .pure ?_
    exact .pair hkey.laid h₂.le_start hvalue.laid

theorem after_dictRest (hr : r.Lays) {first : DictItem} (hstart : start < c.last)
    (hfirst : LaidAll start c.last (ofItem first)) :
    (dictRest r start first).After c fun e c' => (Node.expr e).Placed start c'.last := by
  have hlater (c : Cursor) : (dictItem r).After c fun i c' => LaidAll c.last c'.last (ofItem i) :=
    .from_last (R := fun lo hi i => LaidAll lo hi (ofItem i)) (fun hle h => LaidAll.mono_left h hle)
      (after_dictItem hr c)
  refine .bind ((After.many_sign (R := fun lo hi i => LaidAll lo hi (ofItem i))
    (fun hle h => LaidAll.mono_left h hle) hlater).imp fun rest c₁ _ hrest => ?_)
  refine .bind (.any fun _ c₂ h₂ => .bind (.sign fun c₃ h₃ => .spanned ?_))
  have hle := h₂.le.trans h₃.le
  have hall : LaidAll start c₃.last ((first :: rest).flatMap ofItem) :=
    hfirst.append ((LaidAll.flatMap hrest).mono_right hle)
  exact ⟨.dict hall, le_refl _, hstart.trans_le ((LaidAll.flatMap hrest).le.trans hle)⟩

theorem lays_braced (hr : r.Lays) : Lays (braced r) := by
  intro c
  refine .bind (.here (.bind (.sign fun c₁ h₁ => .bind (.peek ?_))))
  -- Only after a first phrase a colon tells a dictionary from a set.
  split
  · refine .bind (.sign fun c₂ h₂ => .spanned ?_)
    have hlt : c.start < c₂.last := h₁.lt_start.trans h₂.lt
    exact ⟨.dict (.nil hlt.le), le_refl _, hlt⟩
  · refine .bind ((after_dictItem hr c₁).imp fun first c₂ _ hfirst => ?_)
    exact after_dictRest hr (h₁.lt_start.trans_le hfirst.le) (hfirst.mono_left h₁.lt_start.le)
  · refine .bind (after_atNamed fun isNamed => .bind ?_)
    refine (lays_starredOrNamed hr c₁).imp fun first c₂ _ hfirst => .bind (.nextIsSign fun _ => ?_)
    have hkey := hfirst.laid.mono_left h₁.lt_start.le
    have hstart := h₁.lt_start.trans hfirst.lt
    refine .ite (fun _ => .bind (.sign fun c₃ h₃ => .bind ?_)) fun _ => ?_
    · refine (hr.expression c₃).imp fun value c₄ _ hvalue => .bind (after_atClause fun b => ?_)
      have hvalue' := hvalue.laid.mono_left h₃.le_start
      refine .ite (fun _ => ?_) fun _ => ?_
      · refine .bind (.any fun clauses c₅ h₅ => .bind (.sign fun c₆ h₆ => .spanned ?_))
        refine placed_of_scope rfl rfl rfl (le_refl _) ?_
        exact hstart.trans_le (hvalue'.le.trans (h₅.le.trans h₆.le))
      · exact after_dictRest hr (hstart.trans_le hvalue'.le) (.pair hkey (le_refl _) hvalue')
    · exact after_displayRest hr (fun es span hi hlt h => .of_chain rfl rfl (le_refl _) hlt h)
        hstart hkey

/-! ## Operands -/

theorem lays_atom (hr : r.Lays) : Lays (atom r) := by
  intro c
  have hconstant (v : Literal) (hnext : ∀ t : Token, t.lexeme = c.next → t.isLayout = false) :
      (do
        let _ ← Parser.token
        return Expr.constant v false (← Parser.spanFrom c.start)).After c fun e c' =>
          (Node.expr e).Placed c.start c'.last :=
    .bind (.token_of_next hnext fun t c₁ h₁ => .bind (.spanFrom (.pure
      (placed_of_scope rfl rfl rfl (le_refl _) h₁.lt))))
  refine .bind (.here (.bind (.peek ?_)))
  -- A name and a constant are one token, which covers text; the others are read further.
  split
  · next id plain hnext =>
    refine .bind (.token_of_next (fun t ht => ?_) fun t c₁ h₁ => .spanned ?_)
    · rw [Token.isLayout, ht, hnext]
    · exact ⟨laid_name (le_refl _) h₁.lt, le_refl _, h₁.lt⟩
  · next hnext => exact hconstant _ fun t ht => by rw [Token.isLayout, ht, hnext]
  · next hnext => exact hconstant _ fun t ht => by rw [Token.isLayout, ht, hnext]
  · next hnext => exact hconstant _ fun t ht => by rw [Token.isLayout, ht, hnext]
  · next hnext => exact hconstant _ fun t ht => by rw [Token.isLayout, ht, hnext]
  · exact after_strings hr.embedded
  · exact lays_parenthesized hr c
  · exact lays_bracketed hr c
  · exact lays_braced hr c
  · next hnext => exact hconstant _ fun t ht => by rw [Token.isLayout, ht, hnext]
  · exact .reject

theorem after_argument (hr : r.Lays) (stage : ArgumentStage) (c : Cursor) :
    (argument r stage).After c fun x c' => (ofArgument x.1).Placed c.start c'.last := by
  refine .bind (.here (.bind (.peek (.bind (.peekSecond fun l => ?_)))))
  -- An unpacked mapping, an unpacked sequence, a keyword, or a plain argument.
  split
  · refine .bind (.sign fun c₁ h₁ => .bind ((hr.expression c₁).imp fun value c₂ _ hvalue => ?_))
    refine .spanned ?_
    exact .around rfl rfl rfl rfl h₁.lt_start hvalue
  · refine .ite (fun _ => .reject) fun _ => .bind (.sign fun c₁ h₁ => .bind ?_)
    refine (hr.expression c₁).imp fun value c₂ _ hvalue => .spanned ?_
    exact .around rfl rfl rfl rfl h₁.lt_start hvalue
  · refine .bind (.name fun arg c₁ h₁ => .bind (.sign fun c₂ h₂ => .bind ?_))
    refine (hr.expression c₂).imp fun value c₃ _ hvalue => .spanned ?_
    have hlt := h₁.lt_start.trans h₂.lt_start
    exact .around rfl rfl rfl rfl hlt hvalue
  · refine .ite (fun _ => .reject) fun _ => .bind ?_
    exact (lays_namedExpression hr c).imp fun e c₁ _ he => .pure he

/-- That arguments are placed one after another. -/
abbrev PlacedAll (lo hi : Place) (args : List Argument) : Prop :=
  Chain (fun lo hi a => (ofArgument a).Placed lo hi) lo hi args

theorem after_argumentsFrom (hr : r.Lays) (stage : ArgumentStage) (rounds : Nat) (c : Cursor) :
    (argumentsFrom r stage rounds).After c fun args c' => PlacedAll c.last c'.last args := by
  induction rounds generalizing stage c with
  | zero => exact .pure (.nil (le_refl _))
  | succ rounds ih =>
      refine .bind (.attempt (.bind (.sign fun c₁ h₁ => ?_)) (.pure (.nil (le_refl _))))
      refine (after_argument hr stage c₁).imp fun x c₂ _ hx => .bind ?_
      exact (ih x.2 c₂).imp fun args c₃ _ hargs => .pure (.cons (hx.mono_left h₁.le_start) hargs)

/-- The arguments of a call are placed between its parentheses. -/
theorem after_callArguments (hr : r.Lays) (c : Cursor) :
    (callArguments r).After c fun x c' => c.start < c'.last ∧ ∃ args,
      x = (positionalArguments args, keywordArguments args) ∧ PlacedAll c.start c'.last args := by
  refine .bind (.here (.bind (.sign fun c₁ h₁ => .ifSign (fun c₂ h₂ => .pure ?_) (.bind ?_))))
  · have hlt := h₁.lt_start.trans h₂.lt
    exact ⟨hlt, [], rfl, .nil hlt.le⟩
  · refine (after_argument hr .plain c₁).imp fun x c₂ _ hx => ?_
    have hfirst := hx.mono_left h₁.lt_start.le
    have hothers : (do
        let args := x.1 :: (← argumentsFrom r x.2 r.rounds)
        let _ ← Parser.signIfNext .comma
        Parser.sign .closeParen
        return (positionalArguments args, keywordArguments args)).After c₂ fun x c' =>
          c.start < c'.last ∧ ∃ args,
            x = (positionalArguments args, keywordArguments args) ∧
              PlacedAll c.start c'.last args := by
      refine .bind ((after_argumentsFrom hr x.2 r.rounds c₂).imp fun args c₃ _ hargs => ?_)
      refine .bind (.any fun _ c₄ h₄ => .bind (.sign fun c₅ h₅ => .pure ?_))
      have hall : PlacedAll c.start c₅.last (x.1 :: args) :=
        .cons hfirst (hargs.mono_right (h₄.le.trans h₅.le))
      have hle := hargs.le fun h => h.laid.le
      exact ⟨hfirst.lt.trans_le (hle.trans (h₄.le.trans h₅.le)), _, rfl, hall⟩
    dsimp only
    split
    · -- A generator alone takes up the parentheses, and is the only argument.
      next e he =>
      refine .bind (after_atClause fun b => .ite (fun _ => ?_) fun _ => hothers)
      refine .bind (.any fun clauses c₃ h₃ => .bind (.sign fun c₄ h₄ => .spanned ?_))
      have hlt := hfirst.lt.trans_le (h₃.le.trans h₄.le)
      exact ⟨hlt, [.positional _], rfl,
        .cons (placed_of_scope rfl rfl rfl (le_refl _) hlt) (.nil (le_refl _))⟩
    · exact hothers

/-! ## Indices -/

theorem after_sliceBound (hr : r.Lays) (c : Cursor) :
    (sliceBound r).After c fun e c' => LaidAll c.last c'.last (ofExpr? e) := by
  refine .bind (.bind (.peek ?_))
  have hbound (b : Bool) : (if b then pure none else some <$> r.expression).After c fun e c' =>
      LaidAll c.last c'.last (ofExpr? e) :=
    .ite (fun _ => .pure (.nil (le_refl _))) fun _ =>
      .map ((hr.expression.laid_after_last c).imp fun e c' _ he => .single he)
  split <;> exact .pure (hbound _)

theorem after_sliceAfter (hr : r.Lays) {lower : Option Expr}
    (hlower : LaidAll start c.start (ofExpr? lower)) :
    (sliceAfter r start lower).After c fun e c' => (Node.expr e).Placed start c'.last := by
  have hslice {c₂ c₃ : Cursor} {upper step : Option Expr} (hlt : start < c₂.last)
      (hbounds : LaidAll start c₂.last (ofExpr? lower ++ ofExpr? upper))
      (hstep : LaidAll c₂.last c₃.last (ofExpr? step)) :
      (do return Expr.slice lower upper step (← Parser.spanFrom start)).After c₃ fun e c' =>
        (Node.expr e).Placed start c'.last :=
    .spanned (.of_chain rfl rfl (le_refl _) (hlt.trans_le hstep.le)
      (hbounds.append hstep))
  refine .bind (.sign fun c₁ h₁ => .bind ?_)
  refine (after_sliceBound hr c₁).imp fun upper c₂ h₂ hupper => ?_
  have hlt : start < c₂.last := (hlower.le.trans_lt h₁.lt).trans_le h₂.le
  have hbounds := (hlower.mono_right h₁.lt.le).append hupper
  refine .ifSign (fun c₃ h₃ => .bind ?_) (.bind (.pure (hslice hlt hbounds (.nil (le_refl _)))))
  refine (after_sliceBound hr c₃).imp fun step c₄ _ hstep => ?_
  exact hslice hlt hbounds (hstep.mono_left h₃.le)

theorem lays_sliceItem (hr : r.Lays) : Lays (sliceItem r) := by
  intro c
  refine .bind (.here (.ifNext ?_ (.bind (after_atNamed fun _ => .bind ?_))))
  · exact after_sliceAfter hr (.nil (le_refl _))
  · refine (lays_namedExpression hr c).imp fun e c₁ h₁ he => .bind (.nextIsSign fun _ => ?_)
    refine .ite (fun _ => after_sliceAfter hr (.single ?_)) fun _ => .pure he
    exact he.laid.mono (le_refl _) h₁.sound.last_le_start

theorem lays_starredOrSlice (hr : r.Lays) : Lays (starredOrSlice r) :=
  fun c => .bind (.here (after_starred hr.expression (lays_sliceItem hr) c))

theorem lays_sliceIndex (hr : r.Lays) : Lays (sliceIndex r) := by
  intro c
  refine .bind (.here (.bind ((lays_starredOrSlice hr c).imp fun first c₁ _ hfirst => ?_)))
  refine .bind (.nextIsSign fun _ => .ite (fun _ => ?_) fun _ => .pure hfirst)
  exact after_tupleRest (lays_starredOrSlice hr) hfirst

theorem after_trailer (hr : r.Lays) {e : Expr} (he : (Node.expr e).Placed start c.last) :
    (trailer r start e).After c fun e' c' => (Node.expr e').Placed start c'.last := by
  refine .bind (.peek ?_)
  -- An attribute, a call, or a subscript.
  split
  · refine .bind (.sign fun c₁ h₁ => .bind (.name fun attr c₂ h₂ => .spanned ?_))
    exact .extended rfl rfl rfl rfl he (h₁.le.trans h₂.le)
  · refine .of_sound fun hc => .bind ((after_callArguments hr c).imp fun x c₁ h₁ hx => ?_)
    obtain ⟨hlt, args, rfl, hargs⟩ := hx
    refine .spanned ⟨?_, le_refl _, he.lt.trans_le h₁.le⟩
    exact .call (he.laid.mono (le_refl _) hc.last_le_start) hlt.le hargs
  · refine .bind (.sign fun c₁ h₁ => .bind ?_)
    refine (lays_sliceIndex hr c₁).imp fun index c₂ _ hindex => ?_
    refine .bind (.sign fun c₃ h₃ => .spanned ?_)
    have hlt := h₁.le_start.trans_lt (hindex.lt.trans_le h₃.le)
    exact .of_chain rfl rfl (le_refl _) (he.lt.trans hlt)
      ((LaidAll.pair he.laid h₁.le_start hindex.laid).mono_right h₃.le)
  · exact .reject

theorem lays_primary (hr : r.Lays) : Lays (primary r) := by
  intro c
  refine .bind (.here (.bind ((lays_atom hr c).imp fun e c₁ _ he => ?_)))
  exact .extendLeft (Q := fun e c' => (Node.expr e).Placed c.start c'.last) he fun e c' he' =>
    after_trailer hr he'

/-! ## Operators -/

theorem lays_awaited (hr : r.Lays) : Lays (awaited r) := by
  intro c
  refine .bind (.here (.ifWord (fun c₁ h₁ => .bind ?_) (lays_primary hr c)))
  refine (lays_primary hr c₁).imp fun e c₂ _ he => .spanned ?_
  exact .around rfl rfl rfl rfl h₁.lt_start he

theorem lays_power (hr : r.Lays) : Lays (power r) := by
  intro c
  refine .bind (.here (.bind ((lays_awaited hr c).imp fun base c₁ _ hbase => ?_)))
  refine .ifSign (fun c₂ h₂ => .bind ?_) (.pure hbase)
  refine (hr.factor c₂).imp fun exponent c₃ _ hexponent => .spanned ?_
  have hparts := LaidAll.pair hbase.laid h₂.le_start hexponent.laid
  exact .of_chain rfl rfl (le_refl _) (hbase.lt.trans_le (h₂.le_start.trans hexponent.lt.le)) hparts

theorem isLayout_of_unaryOp? {l : Lexeme} {op : UnaryOp} (h : unaryOp? l = some op) (t : Token)
    (ht : t.lexeme = l) : t.isLayout = false := by
  subst ht
  unfold unaryOp? at h
  split at h <;> first | cases h; done | rw [Token.isLayout]; simp only [*]

theorem lays_factor (hr : r.Lays) : Lays (factor r) := by
  intro c
  refine .bind (.here (.bind (.peek ?_)))
  split
  · next op hop =>
    refine .bind (.token_of_next (isLayout_of_unaryOp? hop) fun t c₁ h₁ => .bind ?_)
    refine (hr.factor c₁).imp fun e c₂ _ he => .spanned ?_
    exact .around rfl rfl rfl rfl h₁.lt_start he
  · exact lays_power hr c

theorem lays_leftAssociative {op? : Lexeme → Option BinaryOp} (hp : Lays p) :
    Lays (leftAssociative r op? p) := by
  intro c
  refine .bind (.here (.bind ((hp c).imp fun first c₁ _ hfirst => ?_)))
  refine .extendLeft (Q := fun e c' => (Node.expr e).Placed c.start c'.last) hfirst ?_
  intro left c' hleft
  refine .bind (.peek ?_)
  split
  · refine .bind (.any fun _ c₂ h₂ => .bind ((hp c₂).imp fun right c₃ _ hright => ?_))
    refine .spanned ?_
    exact .of_chain rfl rfl (le_refl _) (hleft.lt.trans_le (h₂.le_start.trans hright.lt.le))
      (.pair hleft.laid h₂.le_start hright.laid)
  · exact .reject

theorem lays_union (hr : r.Lays) : Lays (union r) :=
  lays_leftAssociative <| lays_leftAssociative <| lays_leftAssociative <| lays_leftAssociative <|
    lays_leftAssociative <| lays_leftAssociative (lays_factor hr)

theorem lays_comparison (hr : r.Lays) : Lays (comparison r) := by
  intro c
  refine .bind (.here (.bind ((lays_union hr c).imp fun left c₁ _ hleft => ?_)))
  have hcompared (c : Cursor) : (do return ⟨← compareOp, ← union r⟩ : Parser Comparison).After c
      fun x c' => (Node.expr x.operand).Laid c.last c'.last := by
    refine .bind (.any fun op c₁ h₁ => .bind ?_)
    exact ((lays_union hr).laid_after_last c₁).imp fun e c₂ _ he => .pure (he.mono_left h₁.le)
  refine .bind ((After.many (R := fun lo hi x => (Node.expr x.operand).Laid lo hi) hcompared).imp
    fun rest c₂ _ hrest => .ite (fun _ => ?_) fun _ => .spanned ?_)
  · exact .pure (hleft.mono (le_refl _) (LaidAll.le hrest.map))
  · have hoperands : LaidAll c₁.last c₂.last (ofExprs (rest.map (·.operand))) := by
      rw [ofExprs, List.map_map]
      exact hrest.map
    exact .of_chain rfl rfl (le_refl _) (hleft.lt.trans_le hoperands.le)
      (.cons hleft.laid hoperands)

theorem lays_negation (hr : r.Lays) : Lays (negation r) := by
  intro c
  refine .bind (.here (.ifWord (fun c₁ h₁ => .bind ?_) (lays_comparison hr c)))
  refine (hr.negation c₁).imp fun e c₂ _ he => .spanned ?_
  exact .around rfl rfl rfl rfl h₁.lt_start he

theorem lays_joinedBy {w : Reserved} {op : BoolOp} (hp : Lays p) : Lays (joinedBy r w op p) := by
  intro c
  refine .bind (.here (.bind ((hp c).imp fun first c₁ _ hfirst => ?_)))
  have hlater (c : Cursor) : (do Parser.word w; p : Parser Expr).After c fun e c' =>
      (Node.expr e).Laid c.last c'.last :=
    .bind (.word fun c₁ h₁ => (hp.laid_after_last c₁).imp fun e c₂ _ he => he.mono_left h₁.le)
  refine .bind ((After.many (R := fun lo hi e => (Node.expr e).Laid lo hi) hlater).imp
    fun rest c₂ _ hrest => .ite (fun _ => ?_) fun _ => .spanned ?_)
  · exact .pure (hfirst.mono (le_refl _) (LaidAll.le hrest.map))
  · exact .of_chain rfl rfl (le_refl _) (hfirst.lt.trans_le (LaidAll.le hrest.map))
      (.cons hfirst.laid hrest.map)

theorem lays_disjunction (hr : r.Lays) : Lays (disjunction r) :=
  lays_joinedBy (lays_joinedBy (lays_negation hr))

theorem lays_lambda : Lays (lambda r) := by
  intro c
  refine .bind (.here (.bind (.word fun c₁ h₁ => .bind (.any fun ps c₂ h₂ => ?_))))
  refine .bind (.any fun _ c₃ h₃ => .bind (.any fun body c₄ h₄ => .spanned ?_))
  exact placed_of_scope rfl rfl rfl (le_refl _) (h₁.lt.trans_le (h₂.le.trans (h₃.le.trans h₄.le)))

/-- A conditional expression is read from its body on. -/
theorem lays_expression (hr : r.Lays) : Lays (expression r) := by
  intro c
  refine .ifNext (lays_lambda c) (.bind (.here (.bind ?_)))
  refine (lays_disjunction hr c).imp fun body c₁ _ hbody => .bind (.attempt ?_ (.pure hbody))
  -- Its test and what stands for a false test are read after the body.
  refine .bind (.word fun c₂ h₂ => .bind ((lays_disjunction hr c₂).imp fun test c₃ _ htest => ?_))
  refine .bind (.word fun c₄ h₄ => .bind ((hr.expression c₄).imp fun orElse c₅ _ horElse => ?_))
  refine .pure (.spanned ⟨?_, le_refl _, ?_⟩)
  · exact .conditional hbody.laid (htest.laid.mono_left h₂.le_start)
      (horElse.laid.mono_left h₄.le_start)
  · calc c.start
      _ < c₁.last := hbody.lt
      _ ≤ c₂.start := h₂.le_start
      _ ≤ c₃.last := htest.lt.le
      _ ≤ c₄.start := h₄.le_start
      _ ≤ c₅.last := horElse.lt.le

theorem lays_next (hr : r.Lays) : r.next.Lays where
  embedded := hr.embedded
  expression := lays_expression hr
  disjunction := lays_disjunction hr
  negation := lays_negation hr
  union := lays_union hr
  factor := lays_factor hr
  primary := lays_primary hr

end Productions

/-! ## The rules tied together -/

theorem lays_rules {embedded : Place → List Char → Option Expr} (h : LaysEmbedded embedded)
    (n : Nat) : (rules embedded n).Lays := by
  induction n with
  | zero =>
      have hreject : Lays Parser.reject := fun _ => .reject
      exact ⟨h, hreject, hreject, hreject, hreject, hreject, hreject⟩
  | succ n ih => exact lays_next ih

/-- Where a parser ends is no further than the tokens are that it reads. -/
theorem Cursor.Reads.last_le {c c' : Cursor} {bound : Place} (h : c.Reads c')
    (hlast : c.last ≤ bound)
    (htokens : ∀ t ∈ c.tokens, t.isLayout = false → t.span.stop ≤ bound) : c'.last ≤ bound := by
  induction h with
  | refl => exact hlast
  | token ht _ ih =>
      rw [ht, List.forall_mem_cons] at htokens
      refine ih ?_ htokens.2
      rw [past]
      split
      · exact hlast
      · next hlayout => exact htokens.1 (Bool.eq_false_iff.mpr hlayout)

/-- The expression of a field is laid out where its text stands. -/
theorem laysEmbedded_embeddedExpression (depth : Nat) :
    LaysEmbedded (embeddedExpression depth) := by
  induction depth with
  | zero => exact fun _ _ _ => nofun
  | succ depth ih =>
      intro p cs e h
      obtain ⟨tokens, htokens, h⟩ := Option.bind_eq_some_iff.mp h
      obtain ⟨⟨e, c'⟩, hrun, ⟨⟩⟩ := Option.bind_eq_some_iff.mp h
      have htext : '(' :: cs ++ [')', '\n'] = (('(' :: cs) ++ [')']) ++ ['\n'] := by simp
      have hspells := spells_of_tokenize htokens
      have hsound : Cursor.Sound ⟨tokens, p⟩ := hspells.inRow
      have hreads := (starExpressions _).reads hrun
      have hplaced := lays_starExpressions (lays_rules ih _) _ hsound hrun
        (hsound.leads_of_reads hreads)
      -- The parenthesis after the text is one character, wherever the text ends.
      rw [htext] at hspells
      have hlast : c'.last ≤ p.afterAll (('(' :: cs) ++ [')']) :=
        hreads.last_le (Place.le_afterAll _ _) fun t ht hlayout => hspells.stop_le ht hlayout
      rw [Place.afterAll_append] at hlast
      exact hplaced.laid.mono hsound.last_le_start hlast

theorem lays_rulesFor (tokens : List Token) (cs : List Char) : (rulesFor tokens cs).Lays :=
  lays_rules (laysEmbedded_embeddedExpression _) _

end Standin.Source
