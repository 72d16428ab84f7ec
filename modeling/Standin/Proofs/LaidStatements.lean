/-
Statements and modules are laid out where they are read.

The statements of a block are laid out one after another, whatever marks of layout stand between
them (`LaysAll`); a statement that binds a name starts where it is read.  So the tree of a text
stands as the text does, but for what some node in it crosses (`orderly_of_readModule`).
-/
import Standin.Proofs.LaidPatterns
import Standin.Proofs.Found

set_option autoImplicit false

namespace Standin.Source

open Node
open Standin.Source.Parser (After)

section Simple

variable {r : Rules} {c : Cursor} {start : Place}

/-! ## Simple statements -/

section Optional

variable {α : Type} {p : Parser Expr} {k : Option Expr → Parser α} {Q : α → Cursor → Prop}

/-- What may be left out, and what follows it. -/
theorem after_some (hp : Lays p) {c₁ : Cursor} (h₁ : c.Leads c₁)
    (hk : ∀ e c', LaidAll c.last c'.last (ofExpr? e) → (k e).After c' Q) :
    (some <$> p >>= k).After c₁ Q :=
  .bind (.map ((hp.laid_after_last c₁).imp fun _ _ _ he => hk _ _ (.single (he.mono_left h₁.le))))

theorem after_ifSign (hp : Lays p) {s : Sign}
    (hk : ∀ e c', LaidAll c.last c'.last (ofExpr? e) → (k e).After c' Q) :
    (Parser.signIfNext s >>= fun x =>
      if x = true then some <$> p >>= k else pure none >>= k).After c Q :=
  .ifSign (fun _ h₁ => after_some hp h₁.toLeads hk) (.bind (.pure (hk none c (.nil (le_refl _)))))

theorem after_ifWord (hp : Lays p) {w : Reserved}
    (hk : ∀ e c', LaidAll c.last c'.last (ofExpr? e) → (k e).After c' Q) :
    (Parser.wordIfNext w >>= fun x =>
      if x = true then some <$> p >>= k else pure none >>= k).After c Q :=
  .ifWord (fun _ h₁ => after_some hp h₁.toLeads hk) (.bind (.pure (hk none c (.nil (le_refl _)))))

end Optional

/-- Targets are laid out in the order in which they are read, and the value after them. -/
theorem after_assignRest (hr : r.Lays) (rounds : Nat) {targets : List Expr} (c : Cursor)
    (h : LaidAll start c.last (targets.reverse.map .expr)) :
    (assignRest r start targets rounds).After c fun s c' => (Node.stmt s).Laid start c'.last := by
  induction rounds generalizing targets c with
  | zero => exact .reject
  | succ rounds ih =>
      refine .bind (.sign fun c₁ h₁ => .bind ?_)
      refine (lays_yieldOrExpressions hr c₁).imp fun e c₂ _ he => ?_
      have hvalue := he.laid.mono_left h₁.le_start
      refine .ifNext ?_ (.spanned (.of_chain rfl rfl (h.append (.single hvalue))))
      -- What was read as a value is one more target.
      split
      · next t ht =>
        refine ih c₂ ?_
        rw [List.reverse_cons, List.map_append]
        exact h.append (.single ((echoes_asStored? ht).laid hvalue))
      · exact .reject

/-- An annotation is not looked into. -/
theorem laid_annAssign {target hint : Expr} {value : Option Expr} {simple : Bool}
    {mid stop hi : Place} (htarget : (Node.expr target).Laid start mid)
    (hvalue : LaidAll mid hi (ofExpr? value)) (hlt : start < hi) :
    (Node.stmt (.annAssign target hint value simple ⟨start, stop⟩)).Laid start hi := by
  refine .of_named rfl (le_refl _) hlt ?_
  -- Without a value nothing is visited, and a name that is a target is not visited by itself.
  cases value with
  | none => exact .nil hlt.le
  | some value =>
      cases target
      case name => exact LaidAll.mono_left hvalue htarget.le
      all_goals exact .cons htarget hvalue

theorem after_expressionStatement (hr : r.Lays) (c : Cursor) :
    (expressionStatement r).After c fun s c' => (Node.stmt s).Laid c.start c'.last := by
  refine .bind (.here (.bind (.peek ?_)))
  refine .bind ((lays_yieldOrExpressions hr c).imp fun e c₁ _ he => .bind (.peek ?_))
  -- An assignment, an annotated one, and an augmented one or an expression alone.
  split
  · split
    · next t ht => exact after_assignRest hr _ c₁ (.single ((echoes_asStored? ht).laid he.laid))
    · exact .reject
  · split
    · exact .reject
    · next t ht =>
      refine .bind (.sign fun c₂ h₂ => .bind ((hr.expression c₂).imp fun hint c₃ h₃ hhint => ?_))
      refine after_ifSign (lays_yieldOrExpressions hr) fun value c₄ hvalue => ?_
      refine .spanned (laid_annAssign ((echoes_asSingle? ht).laid he.laid) ?_ ?_)
      · exact hvalue.mono_left (h₂.le.trans h₃.le)
      · exact he.lt.trans_le (h₂.le.trans (h₃.le.trans hvalue.le))
  · split
    · exact .spanned (.of_chain rfl rfl (.single he.laid))
    · split
      · exact .reject
      · next t ht =>
        refine .bind (.any fun _ c₂ h₂ => .bind ((lays_yieldOrExpressions hr c₂).imp
          fun value c₃ _ hvalue => .spanned (.of_chain rfl rfl ?_)))
        exact .pair ((echoes_asSingle? ht).laid he.laid) h₂.le_start hvalue.laid

theorem after_importFromStatement (c : Cursor) :
    (importFromStatement r).After c fun s c' => (Node.stmt s).Laid c.start c'.last := by
  have himport {c₁ : Cursor} (h₁ : c.start < c₁.last) (module : Option String) (level : Nat) : (do
      Parser.word .importing
      let names ← importedNames r
      return Stmt.importFrom module names level (← Parser.spanFrom c.start)).After c₁ fun s c' =>
        (Node.stmt s).Laid c.start c'.last := by
    refine .bind (.any fun _ c₂ h₂ => .bind (.any fun names c₃ h₃ => .spanned ?_))
    have hlt := h₁.trans_le (h₂.le.trans h₃.le)
    exact .of_named rfl (le_refl _) hlt (.nil hlt.le)
  refine .bind (.here (.bind (.word fun c₁ h₁ => .bind (.any fun level c₂ h₂ => ?_))))
  have hlt := h₁.lt.trans_le h₂.le
  refine .ifNext (.ite (fun _ => .bind .reject) fun _ => .bind (.pure (himport hlt none level))) ?_
  exact .bind (.map (.any fun module c₃ h₃ => himport (hlt.trans_le h₃.le) _ level))

theorem after_deletedTarget (hr : r.Lays) (c : Cursor) :
    (deletedTarget r).After c fun e c' => (Node.expr e).Laid c.last c'.last := by
  refine .bind ((hr.primary.laid_after_last c).imp fun e c₁ _ he => .ofOption fun t ht => ?_)
  exact (echoes_asDeleted? ht).laid he

theorem after_simpleStatement (hr : r.Lays) (c : Cursor) :
    (simpleStatement r).After c fun s c' => (Node.stmt s).Laid c.start c'.last := by
  refine .bind (.here (.bind (.peek ?_)))
  -- One case for each word that a simple statement may begin with.
  split
  · exact .bind (.word fun c₁ h₁ => .spanned (.of_chain rfl rfl (.nil h₁.lt.le)))
  · exact .bind (.word fun c₁ h₁ => .spanned (.of_chain rfl rfl (.nil h₁.lt.le)))
  · exact .bind (.word fun c₁ h₁ => .spanned (.of_chain rfl rfl (.nil h₁.lt.le)))
  · refine .bind (.word fun c₁ h₁ => .bind (.attempt ?_ ?_))
    · refine (lays_starExpressions hr c₁).imp fun e c₂ _ he => .spanned ?_
      exact .of_chain rfl rfl (.single (he.laid.mono_left h₁.lt_start.le))
    · exact .spanned (.of_chain rfl rfl (.nil h₁.lt.le))
  · refine .bind (.word fun c₁ h₁ => .bind (.any fun names c₂ h₂ => .spanned ?_))
    have hlt := h₁.lt.trans_le h₂.le
    exact .of_named rfl (le_refl _) hlt (.nil hlt.le)
  · exact after_importFromStatement c
  · refine .bind (.word fun c₁ h₁ => .bind (.attempt ?_ ?_))
    · refine (hr.expression c₁).imp fun exc c₂ _ hexc => ?_
      refine after_ifWord hr.expression fun cause c₃ h => ?_
      exact .spanned (.of_chain rfl rfl (.cons (hexc.laid.mono_left h₁.lt_start.le) h))
    · exact .spanned (.of_chain rfl rfl (.nil h₁.lt.le))
  · refine .bind (.word fun c₁ h₁ => .bind (.bind ?_))
    refine (After.laid_separated (after_deletedTarget hr)).imp fun targets c₂ _ htargets => ?_
    refine .bind (.any fun _ c₃ h₃ => .pure (.spanned (.of_chain rfl rfl ?_)))
    exact htargets.mono h₁.lt.le h₃.le
  · refine .bind (.word fun c₁ h₁ => .bind ((hr.expression c₁).imp fun test c₂ _ htest => ?_))
    refine after_ifSign hr.expression fun message c₃ h => .spanned ?_
    exact .of_chain rfl rfl (.cons (htest.laid.mono_left h₁.lt_start.le) h)
  · refine .bind (.word fun c₁ h₁ => .bind (.any fun names c₂ h₂ => .spanned ?_))
    exact .of_chain rfl rfl (.nil (h₁.lt.le.trans h₂.le))
  · refine .bind (.word fun c₁ h₁ => .bind (.any fun names c₂ h₂ => .spanned ?_))
    exact .of_chain rfl rfl (.nil (h₁.lt.le.trans h₂.le))
  · exact after_expressionStatement hr c

theorem after_simpleStatements (hr : r.Lays) (c : Cursor) :
    (simpleStatements r).After c fun ss c' => LaidAll c.last c'.last (ofStmts ss) := by
  have hone (c : Cursor) := After.laid_from_last (after_simpleStatement hr c)
  refine .bind ((After.laid_separated hone).imp fun ss c₁ _ hss => ?_)
  refine .bind (.any fun _ c₂ h₂ => .bind (.layout fun c₃ h₃ => .pure ?_))
  exact hss.mono_right (h₂.le.trans h₃.le)

end Simple

section Compound

variable {r : Rules} {c : Cursor} {start : Place} {block : Parser (List Stmt)}

/-! ## Compound statements -/

/-- That the statements which a parser reads are laid out one after another. -/
def LaysAll (p : Parser (List Stmt)) : Prop :=
  ∀ c, p.After c fun ss c' => LaidAll c.last c'.last (ofStmts ss)

theorem laysAll_labelled (hb : LaysAll block) (w : Reserved) : LaysAll (labelled block w) :=
  fun _ => .bind (.word fun _ h₁ => .bind (.sign fun c₂ h₂ =>
    (hb c₂).imp fun _ _ _ hss => hss.mono_left (h₁.le.trans h₂.le)))

theorem laysAll_elseBlock (hb : LaysAll block) : LaysAll (elseBlock block) :=
  fun c => .ifNext (laysAll_labelled hb .else c) (.pure (.nil (le_refl _)))

theorem after_ifFrom (hr : r.Lays) (hb : LaysAll block) (w : Reserved) (rounds : Nat) (c : Cursor) :
    (ifFrom r block w rounds).After c fun s c' => (Node.stmt s).Laid c.last c'.last := by
  induction rounds generalizing w c with
  | zero => exact .reject
  | succ rounds ih =>
      refine .bind (.here (.bind (.word fun c₁ h₁ => .bind ?_)))
      refine ((lays_namedExpression hr).laid_after_last c₁).imp fun test c₂ _ htest => ?_
      refine .bind (.sign fun c₃ h₃ => .bind ((hb c₃).imp fun body c₄ _ hbody => ?_))
      have hif {orElse : List Stmt} {c₅ : Cursor} (h : LaidAll c₄.last c₅.last (ofStmts orElse)) :
          (do return Stmt.if test body orElse (← Parser.spanFrom c.start)).After c₅ fun s c' =>
            (Node.stmt s).Laid c.last c'.last :=
        .spanned (.of_chain rfl rfl (.cons (htest.mono_left h₁.le)
          ((hbody.mono_left h₃.le).append h)))
      refine .ifNext (.bind ((ih .elif c₄).imp fun nested c₅ _ h => .bind (.pure ?_))) (.bind ?_)
      · exact hif (.single h)
      · exact (laysAll_elseBlock hb c₄).imp fun orElse c₅ _ h => hif h

theorem after_whileStatement (hr : r.Lays) (hb : LaysAll block) (c : Cursor) :
    (whileStatement r block).After c fun s c' => (Node.stmt s).Laid c.last c'.last := by
  refine .bind (.here (.bind (.word fun c₁ h₁ => .bind ?_)))
  refine ((lays_namedExpression hr).laid_after_last c₁).imp fun test c₂ _ htest => ?_
  refine .bind (.sign fun c₃ h₃ => .bind ((hb c₃).imp fun body c₄ _ hbody => .bind ?_))
  refine (laysAll_elseBlock hb c₄).imp fun orElse c₅ _ horElse => .spanned ?_
  exact .of_chain rfl rfl (.cons (htest.mono_left h₁.le) ((hbody.mono_left h₃.le).append horElse))

theorem after_forStatement (hr : r.Lays) (hb : LaysAll block) (isAsync : Bool) (c : Cursor) :
    (forStatement r block start isAsync).After c fun s c' => (Node.stmt s).Laid c.last c'.last := by
  refine .bind (.word fun c₁ h₁ => .bind ?_)
  refine (After.laid_from_last (after_starTargets hr c₁)).imp fun target c₂ _ htarget => ?_
  refine .bind (.word fun c₃ h₃ => .bind ?_)
  refine ((lays_starExpressions hr).laid_after_last c₃).imp fun iter c₄ _ hiter => ?_
  refine .bind (.sign fun c₅ h₅ => .bind ((hb c₅).imp fun body c₆ _ hbody => .bind ?_))
  refine (laysAll_elseBlock hb c₆).imp fun orElse c₇ _ horElse => .spanned ?_
  exact .of_chain rfl rfl (.cons (htarget.mono_left h₁.le) (.cons (hiter.mono_left h₃.le)
    ((hbody.mono_left h₅.le).append horElse)))

theorem after_withItem (hr : r.Lays) (c : Cursor) :
    (withItem r).After c fun w c' => (Node.withItem w).Laid c.last c'.last := by
  refine .bind ((hr.expression.laid_after_last c).imp fun context c₁ _ hcontext => ?_)
  refine .ifWord (fun c₂ h₂ => .bind ?_) (.pure (.of_chain rfl rfl (.single hcontext)))
  refine (After.laid_from_last (after_starTarget hr c₂)).imp fun target c₃ _ htarget => ?_
  have hitem : (Node.withItem ⟨context, some target⟩).Laid c.last c₃.last :=
    .of_chain rfl rfl (.pair hcontext h₂.le htarget)
  refine .bind (.peek ?_)
  split
  · exact .pure hitem
  · exact .pure hitem
  · exact .pure hitem
  · exact .reject

theorem after_withItems (hr : r.Lays) (c : Cursor) :
    (withItems r).After c fun ws c' => LaidAll c.last c'.last (ws.map .withItem) := by
  have hitems (c : Cursor) : (Parser.separated .comma (withItem r) r.rounds).After c fun ws c' =>
      LaidAll c.last c'.last (ws.map .withItem) := .laid_separated (after_withItem hr)
  refine .bind (.attempt (.bind (.sign fun c₁ h₁ => .bind (.bind ?_))) (.bind ?_))
  · refine (hitems c₁).imp fun ws c₂ _ hws => .bind (.any fun _ c₃ h₃ => .pure ?_)
    refine .bind (.sign fun c₄ h₄ => .bind (.sign fun c₅ h₅ => .pure (.pure ?_)))
    exact hws.mono h₁.le (h₃.le.trans (h₄.le.trans h₅.le))
  · exact (hitems c).imp fun ws c₁ _ hws => .bind (.sign fun c₂ h₂ => .pure (hws.mono_right h₂.le))

theorem after_withStatement (hr : r.Lays) (hb : LaysAll block) (isAsync : Bool) (c : Cursor) :
    (withStatement r block start isAsync).After c fun s c' =>
      (Node.stmt s).Laid c.last c'.last := by
  refine .bind (.word fun c₁ h₁ => .bind ((after_withItems hr c₁).imp fun items c₂ _ hitems => ?_))
  refine .bind ((hb c₂).imp fun body c₃ _ hbody => .spanned (.of_chain rfl rfl ?_))
  exact (hitems.append hbody).mono_left h₁.le

theorem after_handler (hr : r.Lays) (hb : LaysAll block) (isGroup : Bool) (c : Cursor) :
    (handler r block isGroup).After c fun h c' => (Node.handler h).Laid c.last c'.last := by
  have hbody {type : Option Expr} {c₁ : Cursor} (htype : LaidAll c.last c₁.last (ofExpr? type))
      (id : Option String) : (do
        Parser.sign .colon
        let body ← block
        return (⟨type, id, body, ← Parser.spanFrom c.start⟩ : Handler)).After c₁ fun h c' =>
          (Node.handler h).Laid c.last c'.last := by
    refine .bind (.sign fun c₂ h₂ => .bind ((hb c₂).imp fun body c₃ _ hbody => ?_))
    exact .spanned (.of_chain rfl rfl ((htype.mono_right h₂.le).append hbody))
  have hname {type : Option Expr} {c₁ : Cursor}
      (htype : LaidAll c.last c₁.last (ofExpr? type)) : (do
      let id ← if type.isSome then asName? else pure none
      Parser.sign .colon
      let body ← block
      return (⟨type, id, body, ← Parser.spanFrom c.start⟩ : Handler)).After c₁ fun h c' =>
        (Node.handler h).Laid c.last c'.last :=
    .ite (fun _ => .bind (.any fun id c₂ h₂ => hbody (htype.mono_right h₂.le) id))
      fun _ => .bind (.pure (hbody htype none))
  have htype {c₁ : Cursor} (hle : c.last ≤ c₁.last) : (do
      let type ← if ← Parser.nextIsSign .colon then
          if isGroup then Parser.reject else pure none
        else some <$> r.expression
      let id ← if type.isSome then asName? else pure none
      Parser.sign .colon
      let body ← block
      return (⟨type, id, body, ← Parser.spanFrom c.start⟩ : Handler)).After c₁ fun h c' =>
        (Node.handler h).Laid c.last c'.last := by
    refine .ifNext (.ite (fun _ => .bind .reject) fun _ => .bind (.pure (hname (.nil hle)))) ?_
    refine .bind (.map ((hr.expression.laid_after_last c₁).imp fun e c₂ _ he => ?_))
    exact hname (.single (he.mono_left hle))
  refine .bind (.here (.bind (.word fun c₁ h₁ => .ite (fun _ => .bind (.sign fun c₂ h₂ => ?_)) ?_)))
  · exact htype (h₁.le.trans h₂.le)
  · exact fun _ => htype h₁.le

theorem after_tryStatement (hr : r.Lays) (hb : LaysAll block) (c : Cursor) :
    (tryStatement r block).After c fun s c' => (Node.stmt s).Laid c.last c'.last := by
  have hend {isGroup : Bool} {body orElse final : List Stmt} {handlers : List Handler} {c' : Cursor}
      (h : LaidAll c.last c'.last
        (ofStmts body ++ handlers.map .handler ++ ofStmts orElse ++ ofStmts final)) :
      (do return Stmt.try isGroup body handlers orElse final (← Parser.spanFrom c.start)).After c'
        fun s c' => (Node.stmt s).Laid c.last c'.last :=
    .spanned (.of_chain rfl rfl h)
  have hfinal {isGroup : Bool} {body orElse : List Stmt} {handlers : List Handler} {c' : Cursor}
      (h : LaidAll c.last c'.last (ofStmts body ++ handlers.map .handler ++ ofStmts orElse)) : (do
        let final ← if ← Parser.nextIsWord .finally then some <$> labelled block .finally
          else pure none
        if handlers.isEmpty && final.isNone then Parser.reject
        return Stmt.try isGroup body handlers orElse (final.getD [])
          (← Parser.spanFrom c.start)).After c' fun s c' => (Node.stmt s).Laid c.last c'.last := by
    refine .ifNext (.bind (.map ?_)) (.bind (.pure (.ite (fun _ => .reject) fun _ => hend ?_)))
    · refine (laysAll_labelled hb .finally c').imp fun final c₁ _ hfinal => ?_
      exact .ite (fun _ => .reject) fun _ => hend (h.append hfinal)
    · exact h.append (.nil (le_refl _))
  refine .bind (.here (.bind ((laysAll_labelled hb .try c).imp fun body c₁ _ hbody => ?_)))
  refine .bind (.peek (.bind (.peekSecond fun l => .bind ?_)))
  refine (After.many (R := fun lo hi h => (Node.handler h).Laid lo hi)
    (after_handler hr hb _)).imp fun handlers c₂ _ hhandlers => ?_
  have hparts := hbody.append hhandlers.map
  refine .ite (fun _ => .bind (.pure (hfinal ?_))) fun _ => .bind ?_
  · exact hparts.append (.nil (le_refl _))
  · exact (laysAll_elseBlock hb c₂).imp fun orElse c₃ _ h => hfinal (hparts.append h)

/-- A function is a scope of its own, whose name stands where it starts. -/
theorem after_functionStatement (hr : r.Lays) {isAsync : Bool} {decorators : List Expr} {lo : Place}
    (hlo : lo ≤ start) (hstart : start ≤ c.start) :
    (functionStatement r block start isAsync decorators).After c fun s c' =>
      (Node.stmt s).Laid lo c'.last := by
  refine .bind (.word fun c₁ h₁ => .bind (.any fun id c₂ h₂ => .bind (.any fun _ c₃ h₃ => ?_)))
  refine .bind (.any fun params c₄ h₄ => .bind (.any fun _ c₅ h₅ => ?_))
  refine after_ifSign hr.expression fun returns c₆ h => .bind (.any fun _ c₇ h₇ => ?_)
  refine .bind (.any fun body c₈ h₈ => .spanned ?_)
  have hread := (((h₂.trans h₃).trans h₄).trans h₅).le.trans (h.le.trans (h₇.trans h₈).le)
  have hlt : start < c₈.last := hstart.trans_lt (h₁.lt.trans_le hread)
  exact .of_named rfl hlo hlt (.nil hlt.le)

theorem after_classStatement {decorators : List Expr} (c : Cursor) :
    (classStatement r block decorators).After c fun s c' => (Node.stmt s).Laid c.start c'.last := by
  have hbody {c₁ : Cursor} {id : String} (h₁ : c.start < c₁.last) (args : List Argument) : (do
      Parser.sign .colon
      let body ← block
      return Stmt.classDef id (positionalArguments args) (keywordArguments args) body decorators
        (← Parser.spanFrom c.start)).After c₁ fun s c' => (Node.stmt s).Laid c.start c'.last := by
    refine .bind (.any fun _ c₂ h₂ => .bind (.any fun body c₃ h₃ => .spanned ?_))
    have hlt := h₁.trans_le (h₂.trans h₃).le
    exact .of_named rfl (le_refl _) hlt (.nil hlt.le)
  refine .bind (.here (.bind (.word fun c₁ h₁ => .bind (.any fun id c₂ h₂ => ?_))))
  have hlt := h₁.lt.trans_le h₂.le
  refine .ifSign (fun c₃ h₃ => .bind (.any fun args c₄ h₄ => .bind (.any fun _ c₅ h₅ => ?_))) ?_
  · exact .bind (.pure (hbody (hlt.trans_le ((h₃.toLeads.trans h₄).trans h₅).le) args))
  · exact .bind (.pure (hbody hlt []))

theorem after_decorated (hr : r.Lays) (c : Cursor) :
    (decorated r block).After c fun s c' => (Node.stmt s).Laid c.last c'.last := by
  refine .bind (.any fun decorators c₁ h₁ => .bind (.here (.bind (.peek ?_))))
  split
  · exact (after_classStatement c₁).imp fun s c₂ _ hs => hs.mono_left h₁.le_start
  · exact .bind (.word fun c₂ h₂ => after_functionStatement hr h₁.le_start h₂.lt_start.le)
  · exact after_functionStatement hr h₁.le_start (le_refl _)

theorem after_asyncStatement (hr : r.Lays) (hb : LaysAll block) (c : Cursor) :
    (asyncStatement r block).After c fun s c' => (Node.stmt s).Laid c.last c'.last := by
  refine .of_sound fun hc => .bind (.here (.bind (.word fun c₁ h₁ => .bind (.peek ?_))))
  split
  · exact (after_forStatement hr hb true c₁).imp fun s c₂ _ hs => hs.mono_left h₁.le
  · exact (after_withStatement hr hb true c₁).imp fun s c₂ _ hs => hs.mono_left h₁.le
  · exact after_functionStatement hr hc.last_le_start h₁.lt_start.le

theorem after_matchCase (hr : r.Lays) (hb : LaysAll block) (c : Cursor) :
    (matchCase r block).After c fun x c' => (Node.matchCase x).Laid c.last c'.last := by
  refine .bind (.softWord fun c₁ h₁ => .bind ?_)
  refine (After.laid_from_last (lays_openPattern hr c₁)).imp fun p c₂ _ hp => ?_
  refine after_ifWord (lays_namedExpression hr) fun guard c₃ hguard => ?_
  refine .bind (.sign fun c₄ h₄ => .bind ((hb c₄).imp fun body c₅ _ hbody => .pure ?_))
  exact .of_chain rfl rfl (.cons (hp.mono_left h₁.le) (hguard.append (hbody.mono_left h₄.le)))

theorem after_matchStatement (hr : r.Lays) (hb : LaysAll block) (c : Cursor) :
    (matchStatement r block).After c fun s c' => (Node.stmt s).Laid c.last c'.last := by
  refine .bind (.here (.bind (.softWord fun c₁ h₁ => .bind ?_)))
  refine ((lays_tupleOf (lays_starredOrNamed hr)).laid_after_last c₁).imp fun subject c₂ _ h => ?_
  refine .ite (fun _ => .reject) fun _ => .bind (.any fun _ c₃ h₃ => .bind (.any fun _ c₄ h₄ => ?_))
  refine .bind (.any fun _ c₅ h₅ => .bind ?_)
  refine (After.many₁ (R := fun lo hi x => (Node.matchCase x).Laid lo hi)
    (after_matchCase hr hb)).imp fun cases c₆ _ hcases => .bind (.any fun _ c₇ h₇ => ?_)
  have hle := ((h₃.trans h₄).trans h₅).le
  exact .spanned (.of_chain rfl rfl (.cons (h.mono_left h₁.le)
    (LaidAll.mono hcases.map hle h₇.le)))

/-- A compound statement, or a line of simple ones. -/
theorem laysAll_statements (hr : r.Lays) (hb : LaysAll block) : LaysAll (statements r block) := by
  have hone {p : Parser Stmt} {c : Cursor}
      (hp : p.After c fun s c' => (Node.stmt s).Laid c.last c'.last) :
      (do return [← p]).After c fun ss c' => LaidAll c.last c'.last (ofStmts ss) :=
    .bind (hp.imp fun s c' _ hs => .pure (.single hs))
  intro c
  refine .of_sound fun hc => .bind (.here (.bind (.peek ?_)))
  -- One case for each word that a compound statement may begin with.
  split
  · exact hone (after_ifFrom hr hb _ _ c)
  · exact hone (after_whileStatement hr hb c)
  · exact hone (after_forStatement hr hb _ c)
  · exact hone (after_withStatement hr hb _ c)
  · exact hone (after_tryStatement hr hb c)
  · exact hone (after_functionStatement hr hc.last_le_start (le_refl _))
  · exact hone (.laid_from_last (after_classStatement c))
  · exact hone (after_asyncStatement hr hb c)
  · exact hone (after_decorated hr c)
  · -- The word `match` may also be a name.
    refine .bind (.attempt ((after_matchStatement hr hb c).imp fun s c' _ hs => ?_) ?_)
    · exact .pure (.single hs)
    · exact after_simpleStatements hr c
  · exact after_simpleStatements hr c

end Compound

/-! ## Modules -/

variable {r : Rules}

theorem laidAll_flatten {lo hi : Place} {groups : List (List Stmt)}
    (h : Chain (fun lo hi ss => LaidAll lo hi (ofStmts ss)) lo hi groups) :
    LaidAll lo hi (ofStmts groups.flatten) := by
  rw [ofStmts, List.map_flatten, ← List.flatMap_def]
  exact LaidAll.flatMap h

theorem laysAll_block (hr : r.Lays) (depth : Nat) : LaysAll (block r depth) := by
  induction depth with
  | zero => exact fun _ => .reject
  | succ depth ih =>
      intro c
      refine .ifNext ?_ (after_simpleStatements hr c)
      refine .bind (.layout fun c₁ h₁ => .bind (.layout fun c₂ h₂ => .bind ?_))
      refine (After.many₁ (R := fun lo hi ss => LaidAll lo hi (ofStmts ss))
        (laysAll_statements hr ih)).imp fun groups c₃ _ hgroups => .bind (.layout fun c₄ h₄ => ?_)
      exact .pure ((laidAll_flatten hgroups).mono (h₁.trans h₂).le h₄.le)

theorem after_moduleBody (hr : r.Lays) (c : Cursor) : (moduleBody r).After c fun m c' =>
    LaidAll c.last c'.last (ofStmts m.body) := by
  refine .bind ((After.many (R := fun lo hi ss => LaidAll lo hi (ofStmts ss))
    (laysAll_statements hr (laysAll_block hr _))).imp fun groups c₁ _ hgroups => ?_)
  exact .bind (.layout fun c₂ h₂ => .pure ((laidAll_flatten hgroups).mono_right h₂.le))

/-- **The tree of a text stands as the text does**, but for what some node in it crosses. -/
theorem orderly_of_readModule {source : String} {tree : Module}
    (h : readModule source = .ok tree) : tree.Orderly := by
  obtain ⟨tokens, c, hspells, hrun⟩ := readModule_eq_ok h
  have hsound : Cursor.Sound ⟨tokens, ⟨1, 0⟩⟩ := hspells.inRow
  have hlaid := after_moduleBody (lays_rulesFor tokens _) _ hsound hrun
    (hsound.leads_of_reads ((moduleBody _).reads hrun))
  exact ⟨hlaid.pairwise, fun s hs => (hlaid.laid_of_mem (List.mem_map_of_mem hs)).orderly⟩

end Standin.Source
