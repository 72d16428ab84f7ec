/-
What a parser says of where it has read.

Reading moves a cursor on, past tokens that stand one after another (`Cursor.Sound`).  What a parser
gives, and where it ends, is said of each cursor that it starts from (`Parser.After`), so what holds
of a production is put together from what holds of the parsers it runs, one rule for each way of
running them.
-/
import Standin.Proofs.Heads
import Standin.Proofs.Layout

set_option autoImplicit false

namespace Standin.Source

/-! ## Cursors that are further on -/

namespace Cursor

variable {c c' c'' : Cursor} {t : Token} {rest : List Token}

/-- That the tokens that are left stand one after another, from where the last one ended. -/
def Sound (c : Cursor) : Prop := InRow c.last c.tokens

/-- That one cursor is as far on as another one. -/
structure Leads (c c' : Cursor) : Prop where
  sound : c'.Sound
  le : c.last ≤ c'.last

/-- That one cursor is past the token that comes next at another one. -/
structure Passes (c c' : Cursor) : Prop extends c.Leads c' where
  lt : c.start < c'.last

theorem Sound.last_le_start (h : c.Sound) : c.last ≤ c.start := by
  obtain ⟨tokens, last⟩ := c
  cases h with
  | nil => exact le_refl last
  | cons hstart _ _ => exact hstart

theorem Leads.le_start (h : c.Leads c') : c.last ≤ c'.start := h.le.trans h.sound.last_le_start

theorem Leads.trans (h : c.Leads c') (h' : c'.Leads c'') : c.Leads c'' :=
  ⟨h'.sound, h.le.trans h'.le⟩

theorem Passes.lt_start (h : c.Passes c') : c.start < c'.start :=
  h.lt.trans_le h.sound.last_le_start

theorem Sound.stands (h : c.Sound) (ht : c.tokens = t :: rest) : t.Stands := by
  obtain ⟨tokens, last⟩ := c
  obtain rfl : tokens = t :: rest := ht
  obtain _ | ⟨-, hstands, -⟩ := h
  exact hstands

theorem Sound.leads_past (h : c.Sound) (ht : c.tokens = t :: rest) : c.Leads (c.past t rest) := by
  obtain ⟨tokens, last⟩ := c
  obtain rfl : tokens = t :: rest := ht
  obtain _ | ⟨hstart, hstands, hrest⟩ := h
  have hle : last ≤ t.span.stop := hstart.trans hstands.le
  unfold past
  -- A mark of layout ends where it starts, and the last place is not moved to it.
  split
  · exact ⟨hrest.mono hle, le_refl _⟩
  · exact ⟨hrest, hle⟩

theorem start_of_tokens (ht : c.tokens = t :: rest) : c.start = t.span.start := by
  rw [start, ht]

theorem last_past (hlayout : t.isLayout = false) : (c.past t rest).last = t.span.stop :=
  if_neg (by simp [hlayout])

theorem Sound.passes_past (h : c.Sound) (ht : c.tokens = t :: rest) (hlayout : t.isLayout = false) :
    c.Passes (c.past t rest) := by
  refine ⟨h.leads_past ht, ?_⟩
  rw [start_of_tokens ht, last_past hlayout]
  exact (h.stands ht).lt hlayout

theorem Sound.leads_of_reads (h : c.Sound) (hreads : c.Reads c') : c.Leads c' := by
  induction hreads with
  | refl c => exact ⟨h, le_refl _⟩
  | token ht _ ih =>
      have hpast := h.leads_past ht
      exact hpast.trans (ih hpast.sound)

end Cursor

/-! ## Rules for running parsers -/

namespace Parser

variable {α β : Type} {p : Parser α} {f : α → Parser β} {c : Cursor} {Q Q' : α → Cursor → Prop}

/-- That what the parser gives from a cursor on, and the cursor that it ends at, have a property. -/
def After (p : Parser α) (c : Cursor) (Q : α → Cursor → Prop) : Prop :=
  c.Sound → ∀ ⦃a c'⦄, p.run c = some (a, c') → c.Leads c' → Q a c'

namespace After

theorem any (h : ∀ a c', c.Leads c' → Q a c') : p.After c Q :=
  fun _ a c' _ hleads => h a c' hleads

theorem imp (h : p.After c Q) (hQ : ∀ a c', c.Leads c' → Q a c' → Q' a c') : p.After c Q' :=
  fun hc a c' hrun hleads => hQ a c' hleads (h hc hrun hleads)

theorem of_sound (h : c.Sound → p.After c Q) : p.After c Q := fun hc => h hc hc

theorem pure {a : α} (h : Q a c) : (Pure.pure a : Parser α).After c Q := by
  rintro - b c' ⟨⟩ -
  exact h

theorem reject : (Parser.reject : Parser α).After c Q := fun _ => nofun

theorem look {g : Cursor → α} (h : Q (g c) c) : (Parser.look g).After c Q := by
  rintro - b c' ⟨⟩ -
  exact h

theorem here {Q : Place → Cursor → Prop} (h : Q c.start c) : Parser.here.After c Q := look h

theorem spanFrom {Q : Span → Cursor → Prop} {start : Place} (h : Q ⟨start, c.last⟩ c) :
    (Parser.spanFrom start).After c Q := look h

theorem peek {Q : Lexeme → Cursor → Prop} (h : Q c.next c) : Parser.peek.After c Q := look h

theorem peekSecond {Q : Lexeme → Cursor → Prop} (h : ∀ l, Q l c) : Parser.peekSecond.After c Q :=
  look (h _)

theorem bind {Q : β → Cursor → Prop} (h : p.After c fun a c₁ => (f a).After c₁ Q) :
    (p >>= f).After c Q := by
  intro hc b c' hrun _
  obtain ⟨a, c₁, ha, hb⟩ := run_bind_eq_some.mp hrun
  -- Whatever a parser is, it reads on, so the second one starts from a sound cursor too.
  have h₁ := hc.leads_of_reads (p.reads ha)
  exact h hc ha h₁ h₁.sound hb (h₁.sound.leads_of_reads ((f a).reads hb))

theorem map {g : α → β} {Q : β → Cursor → Prop} (h : p.After c fun a c' => Q (g a) c') :
    (g <$> p).After c Q :=
  bind (h.imp fun _ _ _ hQ => pure hQ)

/-- What is given with its stretch is given at the end of it. -/
theorem spanned {start : Place} {build : Span → α} (h : Q (build ⟨start, c.last⟩) c) :
    (do return build (← Parser.spanFrom start)).After c Q := bind (spanFrom (pure h))

theorem ite {b : Prop} [Decidable b] {q : Parser α} (hp : b → p.After c Q)
    (hq : ¬ b → q.After c Q) : (if b then p else q).After c Q := by
  split
  · exact hp ‹_›
  · exact hq ‹_›

theorem attempt {Q : Option α → Cursor → Prop} (hsome : p.After c fun a c' => Q (some a) c')
    (hnone : Q none c) : (Parser.attempt p).After c Q := by
  intro hc a? c' hrun hleads
  cases a? with
  | some a => exact hsome hc (run_attempt_eq_some.mp hrun) hleads
  | none =>
      obtain ⟨-, rfl⟩ := run_attempt_eq_some.mp hrun
      exact hnone

theorem ofOption {a? : Option α} (h : ∀ a, a? = some a → Q a c) :
    (Parser.ofOption a?).After c Q := by
  cases a? with
  | none => exact reject
  | some a => exact pure (h a rfl)

/-! ### Tokens -/

theorem token {Q : Token → Cursor → Prop}
    (h : ∀ t rest, c.tokens = t :: rest → c.Leads (c.past t rest) → Q t (c.past t rest)) :
    Parser.token.After c Q := by
  intro hc t c' hrun hleads
  unfold Parser.token at hrun
  dsimp only at hrun
  split at hrun
  · cases hrun
  · next t rest htokens =>
    cases hrun
    exact h t rest htokens hleads

/-- A token that is known to cover text is passed. -/
theorem token_of_next {Q : Token → Cursor → Prop}
    (hnext : ∀ t : Token, t.lexeme = c.next → t.isLayout = false)
    (h : ∀ t c', c.Passes c' → Q t c') : Parser.token.After c Q := by
  intro hc
  refine token (fun t rest htokens _ => h t _ (hc.passes_past htokens (hnext t ?_))) hc
  rw [Cursor.next, htokens]

theorem lexeme {Q : Unit → Cursor → Prop} {l : Lexeme}
    (hl : ∀ t : Token, t.lexeme = l → t.isLayout = false) (h : ∀ c', c.Passes c' → Q () c') :
    (Parser.lexeme l).After c Q := by
  intro hc
  refine bind (token fun t rest htokens _ => ?_) hc
  exact ite (fun hlexeme => pure (h _ (hc.passes_past htokens (hl t hlexeme)))) fun _ => reject

/-- A mark of layout is read like any token. -/
theorem layout {Q : Unit → Cursor → Prop} {l : Lexeme} (h : ∀ c', c.Leads c' → Q () c') :
    (Parser.lexeme l).After c Q :=
  any fun _ => h

theorem sign {Q : Unit → Cursor → Prop} {s : Sign} (h : ∀ c', c.Passes c' → Q () c') :
    (Parser.sign s).After c Q :=
  lexeme (fun t ht => by rw [Token.isLayout, ht]) h

theorem word {Q : Unit → Cursor → Prop} {w : Reserved} (h : ∀ c', c.Passes c' → Q () c') :
    (Parser.word w).After c Q :=
  lexeme (fun t ht => by rw [Token.isLayout, ht]) h

theorem softWord {Q : Unit → Cursor → Prop} {w : String} (h : ∀ c', c.Passes c' → Q () c') :
    (Parser.softWord w).After c Q :=
  lexeme (fun t ht => by rw [Token.isLayout, ht]) h

theorem name {Q : String → Cursor → Prop} (h : ∀ id c', c.Passes c' → Q id c') :
    Parser.name.After c Q := by
  intro hc
  refine bind (token fun t rest htokens _ => ?_) hc
  split
  · next id plain hl =>
    exact pure (h id _ (hc.passes_past htokens (by rw [Token.isLayout, hl])))
  · exact reject

theorem nextIs {Q : Bool → Cursor → Prop} {l : Lexeme} (h : ∀ b, Q b c) :
    (Parser.nextIs l).After c Q :=
  bind (peek (pure (h _)))

theorem nextIsSign {Q : Bool → Cursor → Prop} {s : Sign} (h : ∀ b, Q b c) :
    (Parser.nextIsSign s).After c Q := nextIs h

theorem nextIsWord {Q : Bool → Cursor → Prop} {w : Reserved} (h : ∀ b, Q b c) :
    (Parser.nextIsWord w).After c Q := nextIs h

theorem signIfNext {Q : Bool → Cursor → Prop} {s : Sign} (hyes : ∀ c', c.Passes c' → Q true c')
    (hno : Q false c) : (Parser.signIfNext s).After c Q := by
  refine bind (nextIsSign fun b => ite (fun _ => bind (sign fun c' h => ?_)) fun _ => pure hno)
  exact pure (hyes c' h)

theorem wordIfNext {Q : Bool → Cursor → Prop} {w : Reserved} (hyes : ∀ c', c.Passes c' → Q true c')
    (hno : Q false c) : (Parser.wordIfNext w).After c Q := by
  refine bind (nextIsWord fun b => ite (fun _ => bind (word fun c' h => ?_)) fun _ => pure hno)
  exact pure (hyes c' h)

/-! ### Choices -/

theorem ifNext {q : Parser α} {l : Lexeme} (hp : p.After c Q) (hq : q.After c Q) :
    (Parser.nextIs l >>= fun x => if x = true then p else q).After c Q :=
  bind (nextIs fun _ => ite (fun _ => hp) fun _ => hq)

theorem ifSign {q : Parser α} {s : Sign} (hp : ∀ c', c.Passes c' → p.After c' Q)
    (hq : q.After c Q) : (Parser.signIfNext s >>= fun x => if x = true then p else q).After c Q :=
  bind (signIfNext (fun c' h => ite (fun _ => hp c' h) (absurd rfl)) (ite nofun fun _ => hq))

theorem ifWord {q : Parser α} {w : Reserved} (hp : ∀ c', c.Passes c' → p.After c' Q)
    (hq : q.After c Q) : (Parser.wordIfNext w >>= fun x => if x = true then p else q).After c Q :=
  bind (wordIfNext (fun c' h => ite (fun _ => hp c' h) (absurd rfl)) (ite nofun fun _ => hq))

/-! ### Repetitions -/

variable {R : Place → Place → α → Prop} {rounds : Nat}

theorem many (hp : ∀ c, p.After c fun a c' => R c.last c'.last a) :
    (Parser.many p rounds).After c fun as c' => Chain R c.last c'.last as := by
  induction rounds generalizing c with
  | zero => exact pure (.nil (le_refl _))
  | succ rounds ih =>
      -- Where the parser rejects, nothing more is read, and the chain ends.
      refine bind (attempt ((hp c).imp fun a c₁ _ ha => ?_) (pure (.nil (le_refl _))))
      exact bind (ih.imp fun as c₂ _ has => pure (.cons ha has))

theorem many₁ (hp : ∀ c, p.After c fun a c' => R c.last c'.last a) :
    (Parser.many₁ p rounds).After c fun as c' => Chain R c.last c'.last as :=
  bind ((hp c).imp fun _ _ _ ha => bind ((many hp).imp fun _ _ _ has => pure (.cons ha has)))

/-- A stretch that begins at the next token begins after the last one. -/
theorem from_last (hR : ∀ {lo lo' hi a}, lo' ≤ lo → R lo hi a → R lo' hi a)
    (h : p.After c fun a c' => R c.start c'.last a) : p.After c fun a c' => R c.last c'.last a :=
  of_sound fun hc => h.imp fun _ _ _ ha => hR hc.last_le_start ha

/-- What follows a sign takes up a stretch that begins before the sign. -/
theorem sign_then {s : Sign} (hR : ∀ {lo lo' hi a}, lo' ≤ lo → R lo hi a → R lo' hi a)
    (hp : ∀ c, p.After c fun a c' => R c.last c'.last a) (c : Cursor) :
    (do Parser.sign s; p : Parser α).After c fun a c' => R c.last c'.last a :=
  bind (sign fun c₁ h₁ => (hp c₁).imp fun _ _ _ ha => hR h₁.le ha)

theorem many_sign {s : Sign} (hR : ∀ {lo lo' hi a}, lo' ≤ lo → R lo hi a → R lo' hi a)
    (hp : ∀ c, p.After c fun a c' => R c.last c'.last a) :
    (Parser.many (do Parser.sign s; p) rounds).After c fun as c' => Chain R c.last c'.last as :=
  many (R := R) (sign_then hR hp)

theorem separated {s : Sign} (hR : ∀ {lo lo' hi a}, lo' ≤ lo → R lo hi a → R lo' hi a)
    (hp : ∀ c, p.After c fun a c' => R c.last c'.last a) :
    (Parser.separated s p rounds).After c fun as c' => Chain R c.last c'.last as :=
  bind ((hp c).imp fun _ _ _ ha =>
    bind ((many_sign (R := R) hR hp).imp fun _ _ _ has => pure (.cons ha has)))

/-! ### Phrases that are laid out -/

section Laid

variable {node : α → Node} {s : Sign}

theorem laid_from_last (h : p.After c fun a c' => (node a).Laid c.start c'.last) :
    p.After c fun a c' => (node a).Laid c.last c'.last :=
  from_last (R := fun lo hi a => (node a).Laid lo hi) (fun hle h => Node.Laid.mono_left h hle) h

theorem laid_many_sign (hp : ∀ c, p.After c fun a c' => (node a).Laid c.last c'.last) :
    (Parser.many (do Parser.sign s; p) rounds).After c fun as c' =>
      Node.LaidAll c.last c'.last (as.map node) :=
  (many_sign (R := fun lo hi a => (node a).Laid lo hi) (fun hle h => Node.Laid.mono_left h hle)
    hp).imp fun _ _ _ has => has.map

theorem laid_separated (hp : ∀ c, p.After c fun a c' => (node a).Laid c.last c'.last) :
    (Parser.separated s p rounds).After c fun as c' => Node.LaidAll c.last c'.last (as.map node) :=
  (separated (R := fun lo hi a => (node a).Laid lo hi) (fun hle h => Node.Laid.mono_left h hle)
    hp).imp fun _ _ _ has => has.map

end Laid

/-- What holds of a phrase, and is kept when it is extended, holds of all that it is extended to. -/
theorem extendLeft {extend : α → Parser α} {a : α} (ha : Q a c)
    (hstep : ∀ a c, Q a c → (extend a).After c Q) :
    (Parser.extendLeft extend rounds a).After c Q := by
  induction rounds generalizing a c with
  | zero => exact pure ha
  | succ rounds ih =>
      exact bind (attempt ((hstep a c ha).imp fun a' c' _ ha' => ih ha') (pure ha))

end After

end Parser

end Standin.Source
