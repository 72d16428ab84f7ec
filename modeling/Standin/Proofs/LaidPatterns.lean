/-
Patterns are laid out where they are read.

A pattern is laid out from its first token on (`LaysPatterns`), and has its name there if it binds
one.  The productions of a pattern refer to that of patterns nested in it, so what holds of those
carries over a step at a time.
-/
import Standin.Proofs.LaidExpressions

set_option autoImplicit false

namespace Standin.Source

open Node
open Standin.Source.Parser (After)

section Patterns

variable {r : Rules} {c : Cursor} {p : Parser Pattern} {start : Place}

/-- That the patterns which a parser reads are laid out where it reads them. -/
def LaysPatterns (p : Parser Pattern) : Prop :=
  ∀ c, p.After c fun q c' => (Node.pattern q).Laid c.start c'.last

theorem LaysPatterns.after_last (h : LaysPatterns p) (c : Cursor) :
    p.After c fun q c' => (Node.pattern q).Laid c.last c'.last :=
  .laid_from_last (h c)

theorem after_captureTarget {Q : String → Cursor → Prop} (h : ∀ id c', c.Passes c' → Q id c') :
    captureTarget.After c Q := by
  refine .bind (.nextIs fun b => .ite (fun _ => .reject) fun _ => .bind (.name fun id c₁ h₁ => ?_))
  refine .bind (.peek ?_)
  split <;> first | exact .reject | exact .pure (h id c₁ h₁)

theorem after_number : number.After c fun x c' =>
    (Node.expr (.constant x.1 false x.2)).Placed c.start c'.last := by
  refine .of_sound fun hc => .bind (.here (.bind (.token fun t rest htokens _ => ?_)))
  split
  · next v hlexeme =>
    have hpasses := hc.passes_past htokens (by rw [Token.isLayout, hlexeme])
    exact .spanned (placed_of_scope rfl rfl rfl (le_refl _) hpasses.lt)
  · exact .reject

theorem lays_signedNumber : Lays signedNumber := by
  intro c
  refine .bind (.here (.ifSign (fun c₁ h₁ => .bind ?_) (.bind ?_)))
  · refine after_number.imp fun x c₂ _ hx => .spanned ?_
    exact .around rfl rfl rfl rfl h₁.lt_start hx
  · exact after_number.imp fun x c₁ _ hx => .pure hx

theorem lays_numberPattern : Lays numberPattern := by
  intro c
  refine .bind (.here (.bind ((lays_signedNumber c).imp fun real c₁ _ hreal => ?_)))
  refine .bind (.peek ?_)
  split
  · exact .pure hreal
  · refine .ite (fun _ => .reject) fun _ => .bind (.any fun _ c₂ h₂ => .bind ?_)
    refine after_number.imp fun x c₃ _ hx => .ite (fun _ => .reject) fun _ => ?_
    have hlt := h₂.le_start.trans_lt hx.lt
    exact .spanned (.of_chain rfl rfl (le_refl _) (hreal.lt.trans hlt)
      (.pair hreal.laid h₂.le_start hx.laid))

theorem lays_dottedName (rounds : Nat) : Lays (dottedName rounds) := by
  intro c
  refine .bind (.here (.bind (.name fun id c₁ h₁ => .bind (.spanFrom ?_))))
  refine .extendLeft (Q := fun e c' => (Node.expr e).Placed c.start c'.last)
    ⟨laid_name (le_refl _) h₁.lt, le_refl _, h₁.lt⟩ fun e c' he => ?_
  refine .bind (.sign fun c₂ h₂ => .bind (.name fun attr c₃ h₃ => .spanned ?_))
  exact .extended rfl rfl rfl rfl he (h₂.le.trans h₃.le)

theorem lays_starPattern : LaysPatterns starPattern := by
  intro c
  refine .bind (.here (.bind (.sign fun c₁ h₁ => .bind (.attempt ?_ ?_))))
  · refine after_captureTarget fun id c₂ h₂ => .spanned ?_
    have hlt : c.start < c₂.last := h₁.lt_start.trans h₂.lt
    exact .of_named rfl (le_refl _) hlt (.nil hlt.le)
  · refine .bind (.softWord fun c₂ h₂ => .spanned ?_)
    have hlt : c.start < c₂.last := h₁.lt_start.trans h₂.lt
    exact .of_named rfl (le_refl _) hlt (.nil hlt.le)

theorem lays_maybeStarPattern (hp : LaysPatterns p) : LaysPatterns (maybeStarPattern p) :=
  fun c => .ifNext (lays_starPattern c) (hp c)

theorem after_sequencePattern (hp : LaysPatterns p) {close : Sign} (hstart : start ≤ c.last) :
    (sequencePattern r p start close).After c fun q c' => (Node.pattern q).Laid start c'.last := by
  have hitem := (lays_maybeStarPattern hp).after_last
  refine .ifSign (fun c₁ h₁ => .spanned (.of_chain rfl rfl ?_)) (.bind ?_)
  · exact .nil (hstart.trans h₁.le)
  · refine (hitem c).imp fun first c₁ _ hfirst => .bind ?_
    refine (After.laid_many_sign hitem).imp fun rest c₂ _ hrest => ?_
    refine .bind (.any fun comma c₃ h₃ => .bind (.sign fun c₄ h₄ => ?_))
    have hrest' := hrest.mono_right (h₃.le.trans h₄.le)
    have hfirst' := hfirst.mono_left hstart
    dsimp only
    split
    · exact .reject
    · exact .pure (hfirst'.mono (le_refl _) hrest'.le)
    · exact .spanned (.of_chain rfl rfl (.cons hfirst' hrest'))

theorem isLayout_of_singleton? {l : Lexeme} {v : Literal} (h : singleton? l = some v) (t : Token)
    (ht : t.lexeme = l) : t.isLayout = false := by
  subst ht
  unfold singleton? at h
  split at h <;> first | cases h; done | rw [Token.isLayout]; simp only [*]

theorem lays_patternKey (hr : r.Lays) : Lays (patternKey r) := by
  intro c
  refine .bind (.here (.bind (.peek ?_)))
  split
  · exact after_strings hr.embedded
  · exact lays_numberPattern c
  · exact lays_numberPattern c
  · refine .bind ((lays_dottedName _ c).imp fun e c₁ _ he => ?_)
    exact .ite (fun _ => .pure he) fun _ => .reject
  · split
    · next v hv =>
      refine .bind (.token_of_next (isLayout_of_singleton? hv) fun t c₁ h₁ => .bind (.spanFrom ?_))
      exact .pure (placed_of_scope rfl rfl rfl (le_refl _) h₁.lt)
    · exact .reject

theorem after_patternEntry (hr : r.Lays) (hp : LaysPatterns p) (c : Cursor) :
    (patternEntry r p).After c fun x c' => LaidAll c.last c'.last (ofEntry x) := by
  refine .bind (((lays_patternKey hr).laid_after_last c).imp fun key c₁ _ hkey => ?_)
  refine .bind (.sign fun c₂ h₂ => .bind ((hp c₂).imp fun q c₃ _ hq => .pure ?_))
  exact .pair hkey h₂.le_start hq

/-- A mapping starts with its brace, after which its entries stand. -/
theorem lays_mappingPattern (hr : r.Lays) (hp : LaysPatterns p) :
    LaysPatterns (mappingPattern r p) := by
  intro c
  refine .bind (.here (.bind (.sign fun c₁ h₁ => ?_)))
  have hmapping {entries : List PatternEntry} {rest : Option String} {c' : Cursor}
      (h : LaidAll c₁.last c'.last (entries.flatMap ofEntry)) :
      (do return Pattern.mapping entries rest (← Parser.spanFrom c.start)).After c' fun q c' =>
        (Node.pattern q).Laid c.start c'.last :=
    .spanned (.mapping (le_refl _) h₁.lt h)
  refine .ifSign (fun c₂ h₂ => hmapping (.nil h₂.le)) (.ifNext (.bind (.any fun id c₂ h₂ => ?_)) ?_)
  · refine .bind (.any fun _ c₃ h₃ => .bind (.sign fun c₄ h₄ => hmapping (.nil ?_)))
    exact h₂.le.trans (h₃.le.trans h₄.le)
  · refine .bind ((After.separated (R := fun lo hi x => LaidAll lo hi (ofEntry x))
      (fun hle h => LaidAll.mono_left h hle) (after_patternEntry hr hp)).imp ?_)
    intro entries c₂ _ h
    refine .bind (.any fun id c₃ h₃ => .bind (.any fun _ c₄ h₄ => .bind (.sign fun c₅ h₅ => ?_)))
    exact hmapping ((LaidAll.flatMap h).mono_right (h₃.le.trans (h₄.le.trans h₅.le)))

theorem after_keywordPattern (hp : LaysPatterns p) (c : Cursor) :
    (keywordPattern p).After c fun k c' => (Node.pattern k.pattern).Laid c.last c'.last := by
  refine .bind (.name fun attr c₁ h₁ => .bind (.sign fun c₂ h₂ => .bind ?_))
  exact (hp.after_last c₂).imp fun q c₃ _ hq => .pure (hq.mono_left (h₁.le.trans h₂.le))

theorem after_classEnd {Q : Unit → Cursor → Prop} (h : ∀ c', c.Leads c' → Q () c') :
    classEnd.After c Q :=
  .bind (.any fun _ _ h₁ => .sign fun c₂ h₂ => h c₂ (h₁.trans h₂.toLeads))

theorem after_keywordPatterns (hp : LaysPatterns p) (c : Cursor) :
    (keywordPatterns r p).After c fun ks c' =>
      LaidAll c.last c'.last (ks.map (.pattern ·.pattern)) := by
  refine .bind ((After.laid_separated (after_keywordPattern hp)).imp fun ks c₁ _ hks => ?_)
  exact .bind (after_classEnd fun c₂ h₂ => .pure (hks.mono_right h₂.le))

theorem after_positionalPatterns (hp : LaysPatterns p) (c : Cursor) :
    (positionalPatterns r p).After c fun x c' =>
      LaidAll c.last c'.last (x.1.map .pattern ++ x.2.map (.pattern ·.pattern)) := by
  refine .bind ((After.laid_separated hp.after_last).imp fun ps c₁ _ hps => .bind (.attempt ?_ ?_))
  · refine .bind (.sign fun c₂ h₂ => (after_keywordPatterns hp c₂).imp fun ks c₃ _ hks => .pure ?_)
    exact .append hps (hks.mono_left h₂.le)
  · exact .bind (after_classEnd fun c₂ h₂ => .pure (.append hps (.nil h₂.le)))

theorem after_classPattern (hp : LaysPatterns p) {cls : Expr}
    (hcls : (Node.expr cls).Laid start c.last) :
    (classPattern r p start cls).After c fun q c' => (Node.pattern q).Laid start c'.last := by
  have hclass {ps : List Pattern} {ks : List KeywordPattern} {c' : Cursor}
      (h : LaidAll c.last c'.last (ps.map .pattern ++ ks.map (.pattern ·.pattern))) :
      (do return Pattern.cls cls ps ks (← Parser.spanFrom start)).After c' fun q c' =>
        (Node.pattern q).Laid start c'.last :=
    .spanned (.of_chain rfl rfl (.cons hcls h))
  refine .bind (.sign fun c₁ h₁ => .ifSign (fun c₂ h₂ => hclass (.nil (h₁.le.trans h₂.le))) ?_)
  -- Keywords may follow other patterns, or stand alone.
  refine .bind (.attempt ?_ (.bind ?_))
  · exact (after_positionalPatterns hp c₁).imp fun x c₂ _ hx => hclass (hx.mono_left h₁.le)
  · exact (after_keywordPatterns hp c₁).imp fun ks c₂ _ hks => hclass (hks.mono_left h₁.le)

theorem lays_closedPattern (hr : r.Lays) (hp : LaysPatterns p) :
    LaysPatterns (closedPattern r p) := by
  have hvalue {c c' : Cursor} {e : Expr} (he : (Node.expr e).Laid c.start c'.last) :
      (do return Pattern.value e (← Parser.spanFrom c.start)).After c' fun q c' =>
        (Node.pattern q).Laid c.start c'.last :=
    .spanned (.of_chain rfl rfl (.single he))
  intro c
  refine .of_sound fun hc => .bind (.here (.bind (.peek ?_)))
  split
  · exact .bind ((after_strings hr.embedded).imp fun e c₁ _ he => hvalue he.laid)
  · exact .bind ((lays_numberPattern c).imp fun e c₁ _ he => hvalue he.laid)
  · exact .bind ((lays_numberPattern c).imp fun e c₁ _ he => hvalue he.laid)
  · exact .bind (.sign fun c₁ h₁ => after_sequencePattern hp h₁.lt.le)
  · exact .bind (.sign fun c₁ h₁ => after_sequencePattern hp h₁.lt.le)
  · exact lays_mappingPattern hr hp c
  · exact .bind (.softWord fun c₁ h₁ => .spanned (.of_named rfl (le_refl _) h₁.lt (.nil h₁.lt.le)))
  · -- A name alone is captured; with dots it is a value, and with arguments a class.
    refine .bind ((lays_dottedName _ c).imp fun e c₁ _ he => .bind (.peek ?_))
    split
    · exact after_classPattern hp he.laid
    · exact .reject
    · refine .bind (.spanFrom (.ite (fun _ => .pure ?_) fun _ => .pure ?_))
      · exact .of_chain rfl rfl (.single he.laid)
      · exact .of_named rfl (le_refl _) he.lt (.nil he.lt.le)
  · split
    · next v hv =>
      refine .bind (.token_of_next (isLayout_of_singleton? hv) fun t c₁ h₁ => .bind (.spanFrom ?_))
      exact .pure (.of_chain rfl rfl (.nil h₁.lt.le))
    · exact .reject

theorem lays_asPattern (hr : r.Lays) (hp : LaysPatterns p) : LaysPatterns (asPattern r p) := by
  have hclosed := lays_closedPattern hr hp
  intro c
  refine .bind (.here (.bind ((hclosed c).imp fun first c₁ _ hfirst => .bind ?_)))
  refine (After.laid_many_sign hclosed.after_last).imp fun rest c₂ h₂ hrest => ?_
  refine .bind (.spanFrom ?_)
  have hall : (Node.pattern (if rest.isEmpty then first else
      .either (first :: rest) ⟨c.start, c₂.last⟩)).Laid c.start c₂.last := by
    split
    · exact hfirst.mono (le_refl _) (hrest.le)
    · exact .of_chain rfl rfl (.cons hfirst hrest)
  refine .bind (.attempt (.bind (.word fun c₃ h₃ => ?_)) (.pure hall))
  refine after_captureTarget fun id c₄ h₄ => .spanned ?_
  have hle := h₃.le.trans h₄.le
  have hlt : c.start < c₄.last :=
    calc c.start
      _ ≤ c₂.last := hall.le
      _ ≤ c₂.start := h₂.sound.last_le_start
      _ < c₃.last := h₃.lt
      _ ≤ c₄.last := h₄.le
  exact .of_named rfl (le_refl _) hlt (.single (hall.mono (le_refl _) hle))

theorem lays_pattern (hr : r.Lays) (depth : Nat) : LaysPatterns (pattern r depth) := by
  induction depth with
  | zero => exact fun _ => .reject
  | succ depth ih => exact lays_asPattern hr ih

theorem lays_openPattern (hr : r.Lays) : LaysPatterns (openPattern r) := by
  have hitem := lays_maybeStarPattern (lays_pattern hr r.rounds)
  intro c
  refine .bind (.here (.bind ((hitem c).imp fun first c₁ _ hfirst => .ifNext ?_ ?_)))
  · refine .bind ((After.laid_many_sign hitem.after_last).imp fun rest c₂ _ hrest => ?_)
    refine .bind (.any fun _ c₃ h₃ => .spanned (.of_chain rfl rfl ?_))
    exact .cons hfirst (hrest.mono_right h₃.le)
  · split
    · exact .reject
    · exact .pure hfirst

end Patterns

end Standin.Source
