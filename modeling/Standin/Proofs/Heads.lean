/-
How an expression that is a name is written.

Each production is built from the next tighter one, and gives what that gives where nothing of its
own is read.  So an expression that is a name was read in one of two ways: as that name, a single
token, or from an opening parenthesis on (`bare_yieldOrExpressions`).
-/
import Standin.Source.Parser

set_option autoImplicit false

namespace Standin.Source

open Source.Parser

/-! ## Running a parser -/

/-- What is read comes before what is left. -/
theorem Cursor.Reads.exists_append {c c' : Cursor} (h : c.Reads c') :
    ∃ before, c.tokens = before ++ c'.tokens := by
  induction h with
  | refl c => exact ⟨[], rfl⟩
  | token htokens _ ih =>
      obtain ⟨before, hbefore⟩ := ih
      exact ⟨_ :: before, by rw [htokens, List.cons_append, ← hbefore]; rfl⟩

namespace Parser

variable {α β : Type} {P : α → Prop} {Q : β → Prop} {c c' : Cursor}

theorem run_bind (p : Parser α) (f : α → Parser β) (c : Cursor) :
    (p >>= f).run c = (p.run c).bind fun r => (f r.1).run r.2 := rfl

theorem run_bind_eq_some {p : Parser α} {f : α → Parser β} {b : β} :
    (p >>= f).run c = some (b, c') ↔
      ∃ a c₁, p.run c = some (a, c₁) ∧ (f a).run c₁ = some (b, c') := by
  rw [run_bind, Option.bind_eq_some_iff]
  exact Prod.exists

/-- That all the parser ever gives has a property. -/
def Returns (P : α → Prop) (p : Parser α) : Prop :=
  ∀ ⦃c a c'⦄, p.run c = some (a, c') → P a

theorem returns_pure {a : α} (h : P a) : (pure a : Parser α).Returns P := by
  rintro c b c' ⟨⟩
  exact h

theorem returns_reject : (reject : Parser α).Returns P := nofun

theorem returns_bind {p : Parser α} {f : α → Parser β} (h : ∀ a, (f a).Returns Q) :
    (p >>= f).Returns Q := by
  intro c b c' hrun
  obtain ⟨a, c₁, -, hf⟩ := run_bind_eq_some.mp hrun
  exact h a hf

theorem returns_ite {b : Prop} [Decidable b] {p q : Parser α} (hp : p.Returns P)
    (hq : q.Returns P) : (if b then p else q).Returns P := by
  split
  · exact hp
  · exact hq

/-- That the parser reads nothing unless what it gives has a property. -/
def Declines (P : α → Prop) (p : Parser α) : Prop :=
  ∀ ⦃c a c'⦄, p.run c = some (a, c') → c' = c ∨ P a

theorem declines_look (f : Cursor → α) : (look f).Declines P := by
  rintro c a c' ⟨⟩
  exact .inl rfl

theorem declines_nextIs (l : Lexeme) {P : Bool → Prop} : (nextIs l).Declines P := by
  intro c a c' h
  obtain ⟨l', c₁, ⟨⟩, ⟨⟩⟩ := run_bind_eq_some.mp h
  exact .inl rfl

/-- What is read only if it comes next leaves the cursor where it is, or says that it did not. -/
theorem declines_ifNext {b : Parser Bool} {p : Parser Unit} (hb : b.Declines fun _ => False) :
    Parser.Declines (· = true)
      (do if ← b then
            p
            return true
          else return false) := by
  intro c a c' hrun
  obtain ⟨next, c₁, hnext, h⟩ := run_bind_eq_some.mp hrun
  obtain rfl | ⟨⟨⟩⟩ := hb hnext
  split at h
  · obtain ⟨-, c₂, -, ⟨⟩⟩ := run_bind_eq_some.mp h
    exact .inr rfl
  · cases h
    exact .inl rfl

theorem declines_signIfNext (s : Sign) : (signIfNext s).Declines (· = true) :=
  declines_ifNext (declines_nextIs _)

theorem declines_wordIfNext (w : Reserved) : (wordIfNext w).Declines (· = true) :=
  declines_ifNext (declines_nextIs _)

theorem run_attempt_eq_some {p : Parser α} {a? : Option α} :
    (attempt p).run c = some (a?, c') ↔
      match a? with
      | some a => p.run c = some (a, c')
      | none => p.run c = none ∧ c' = c := by
  unfold attempt
  cases h : p.run c <;> cases a? <;> simp [h, Prod.ext_iff, eq_comm]

theorem declines_attempt (p : Parser α) : (attempt p).Declines (·.isSome = true) := by
  intro c a? c' h
  cases a? with
  | none => exact .inl (run_attempt_eq_some.mp h).2
  | some a => exact .inr rfl

/-- Where a repetition gives nothing, it has read nothing. -/
theorem declines_many (p : Parser α) (rounds : Nat) :
    (many p rounds).Declines (·.isEmpty = false) := by
  intro c as c' h
  -- Only the first round is asked: where it gives nothing, the repetition has ended.
  cases rounds with
  | zero =>
      cases h
      exact .inl rfl
  | succ rounds =>
      obtain ⟨a?, c₁, hattempt, h⟩ := run_bind_eq_some.mp h
      cases a? with
      | none =>
          cases h
          simpa using declines_attempt p hattempt
      | some a =>
          obtain ⟨as, c₂, -, ⟨⟩⟩ := run_bind_eq_some.mp h
          exact .inr rfl

end Parser

/-! ## Names -/

/-- That what is read from the one cursor to the other one begins with a parenthesis or is the name
alone. -/
def Cursor.ReadsName (c c' : Cursor) (e : Expr) : Prop :=
  ∃ t rest, c.tokens = t :: rest ∧
    (t.lexeme = .sign .openParen ∨
      ∃ id plain span, t.lexeme = .name id plain ∧ e = .name id .load span ∧ c' = c.past t rest)

/-- That the parser never gives a name. -/
def Nameless : Parser Expr → Prop := Returns (·.isName = false)

/-- That the parser gives a name only where it reads nothing and the name was given to it. -/
def Keeps (e : Expr) (p : Parser Expr) : Prop :=
  ∀ ⦃c e' c'⦄, p.run c = some (e', c') → e'.isName = true → e' = e ∧ c' = c

/-- That the parser gives a name only from this name alone, or from a parenthesis on. -/
def Bare (p : Parser Expr) : Prop :=
  ∀ ⦃c e c'⦄, p.run c = some (e, c') → e.isName = true → c.ReadsName c' e

section Names

variable {α : Type} {p : Parser α} {f : α → Parser Expr} {q : Parser Expr} {e : Expr}

theorem Nameless.bare (h : Nameless q) : Bare q := fun _ _ _ hrun hname => by
  simp [h hrun] at hname

theorem Keeps.nameless (h : Keeps e q) (he : e.isName = false) : Nameless q := fun _ e' _ hrun => by
  cases hname : e'.isName with
  | false => exact hname
  | true =>
      obtain ⟨rfl, -⟩ := h hrun hname
      simp [he] at hname

theorem keeps_pure (e : Expr) : Keeps e (pure e) := by
  rintro c e' c' ⟨⟩ -
  exact ⟨rfl, rfl⟩

theorem Bare.bare_bind {f : Expr → Parser Expr} (hq : Bare q)
    (hf : ∀ e, Keeps e (f e)) : Bare (q >>= f) := by
  intro c e c' hrun hname
  obtain ⟨e₁, c₁, he₁, hrest⟩ := run_bind_eq_some.mp hrun
  obtain ⟨rfl, rfl⟩ := hf e₁ hrest hname
  exact hq he₁ hname

/-- After nothing is read, a name is read as before. -/
theorem Parser.Declines.bare_bind {P : α → Prop} (hp : p.Declines P)
    (hf : ∀ a, ¬ P a → Bare (f a)) (hP : ∀ a, P a → Nameless (f a)) : Bare (p >>= f) := by
  intro c e c' hrun hname
  obtain ⟨a, c₁, ha, hrest⟩ := run_bind_eq_some.mp hrun
  by_cases hPa : P a
  · simp [hP a hPa hrest] at hname
  · obtain rfl := (hp ha).resolve_right hPa
    exact hf a hPa hrest hname

theorem Parser.Declines.keeps_bind {P : α → Prop} (hp : p.Declines P)
    (hf : ∀ a, ¬ P a → Keeps e (f a)) (hP : ∀ a, P a → Nameless (f a)) : Keeps e (p >>= f) := by
  intro c e' c' hrun hname
  obtain ⟨a, c₁, ha, hrest⟩ := run_bind_eq_some.mp hrun
  by_cases hPa : P a
  · simp [hP a hPa hrest] at hname
  · obtain rfl := (hp ha).resolve_right hPa
    exact hf a hPa hrest hname

theorem bare_look {g : Cursor → α} (hf : ∀ a, Bare (f a)) : Bare (look g >>= f) :=
  (declines_look (P := fun _ => False) g).bare_bind (fun a _ => hf a) nofun

theorem bare_ite {b : Parser Bool} (hb : b.Declines (· = true)) {x y : Parser Expr}
    (hx : Nameless x) (hy : Bare y) : Bare (b >>= fun b => if b = true then x else y) :=
  hb.bare_bind (fun b hb => by rwa [if_neg hb]) fun b hb => by rwa [if_pos hb]

theorem keeps_ite {b : Parser Bool} (hb : b.Declines (· = true)) {x : Parser Expr}
    (hx : Nameless x) : Keeps e (b >>= fun b => if b = true then x else pure e) :=
  hb.keeps_bind (fun b hb => by simpa [hb] using keeps_pure e) fun b hb => by rwa [if_pos hb]

/-- A name is never extended. -/
theorem keeps_extendLeft {extend : Expr → Parser Expr} (h : ∀ e, Nameless (extend e))
    (rounds : Nat) (e : Expr) : Keeps e (extendLeft extend rounds e) := by
  induction rounds generalizing e with
  | zero => exact keeps_pure e
  | succ rounds ih =>
      intro c e' c' hrun hname
      obtain ⟨e?, c₁, hattempt, hrest⟩ := run_bind_eq_some.mp hrun
      -- What has been extended once is no name, and stays none however often it is extended.
      cases e? with
      | none =>
          cases hrest
          exact ⟨rfl, (run_attempt_eq_some.mp hattempt).2⟩
      | some e₁ =>
          have he₁ := h e (run_attempt_eq_some.mp hattempt)
          simp [(ih e₁).nameless he₁ hrest] at hname

end Names

/-! ## Operands and operators -/

section Productions

variable (r : Rules)

/-- Code points alone are joined to constants. -/
theorem eq_constant_of_mem_join {marked : Bool} {span : Span} {before : List Nat}
    {segments : List Segment} (h : ∀ s ∈ segments, ∃ codes, s = .codes codes) {e : Expr}
    (he : e ∈ Segment.join marked span before segments) : ∃ v, e = .constant v marked span := by
  fun_induction Segment.join marked span before segments with
  | case1 => cases he
  | case2 before => exact ⟨_, List.mem_singleton.mp he⟩
  | case3 before more rest ih => exact ih (fun s hs => h s (.tail _ hs)) he
  | case4 => simpa using h _ (.head _)
  | case5 => simpa using h _ (.head _)

theorem exists_of_mem_mapM {α β : Type} {f : α → Option β} {l : List α} {bs : List β}
    (h : l.mapM f = some bs) {b : β} (hb : b ∈ bs) : ∃ a ∈ l, f a = some b := by
  induction l generalizing bs with
  | nil =>
      cases h
      cases hb
  | cons a l ih =>
      rw [List.mapM_cons] at h
      obtain ⟨b₁, hb₁, h⟩ := Option.bind_eq_some_iff.mp h
      obtain ⟨bs₁, hbs₁, ⟨⟩⟩ := Option.bind_eq_some_iff.mp h
      obtain rfl | hb := List.mem_cons.mp hb
      · exact ⟨a, .head _, hb₁⟩
      · obtain ⟨a', ha', hf⟩ := ih hbs₁ hb
        exact ⟨a', .tail _ ha', hf⟩

/-- The value of literals side by side is joined from their parts, or is a constant. -/
theorem literalOfPieces_cases {embedded : Place → List Char → Option Expr} {marked : Bool}
    {span : Span} {pieces : List (StringPiece × Place)} {e : Expr}
    (h : literalOfPieces embedded marked span pieces = some e) :
    (∃ segments, pieces.mapM (fun x => x.1.segments embedded span x.2) = some segments ∧
      e = .joined (Segment.join marked span [] segments.flatten) span) ∨
    ∃ v m, e = .constant v m span := by
  unfold literalOfPieces at h
  dsimp only at h
  split at h
  · obtain ⟨segments, hsegments, h⟩ := Option.bind_eq_some_iff.mp h
    split at h
    · cases h
      exact .inl ⟨segments, hsegments, rfl⟩
    · next hfields =>
      -- No piece has fields, so that all parts are code points.
      have hcodes : ∀ s ∈ segments.flatten, ∃ codes, s = .codes codes := by
        intro s hs
        obtain ⟨group, hgroup, hs⟩ := List.mem_flatten.mp hs
        obtain ⟨⟨p, place⟩, hp, hpiece⟩ := exists_of_mem_mapM hsegments hgroup
        cases p with
        | text codes =>
            cases hpiece
            exact ⟨codes, List.mem_singleton.mp hs⟩
        | bytes bs => cases hpiece
        | fields raw opening body =>
            exact absurd (List.any_eq_true.mpr ⟨_, hp, rfl⟩) hfields
      split at h
      · cases h
        exact .inr ⟨_, _, rfl⟩
      · next part hparts =>
        cases h
        obtain ⟨v, rfl⟩ := eq_constant_of_mem_join hcodes (by rw [hparts]; exact .head _)
        exact .inr ⟨v, marked, rfl⟩
      · cases h
  · split at h <;> cases h
    exact .inr ⟨_, _, rfl⟩

theorem nameless_strings : Nameless (strings r) := by
  refine returns_bind fun _ => returns_bind fun _ => returns_bind fun _ => ?_
  dsimp only
  split
  · next h =>
    obtain ⟨_, -, rfl⟩ | ⟨_, _, rfl⟩ := literalOfPieces_cases h <;> exact returns_pure rfl
  · exact returns_reject

theorem nameless_displayRest {start : Place} {first : Expr} {close : Sign}
    {form : ComprehensionForm} {build : List Expr → Span → Expr}
    (h : ∀ es s, (build es s).isName = false) :
    Nameless (displayRest r start first close form build) := by
  refine returns_bind fun _ => returns_ite (returns_ite returns_reject ?_) ?_
  · repeat refine returns_bind fun _ => ?_
    exact returns_pure rfl
  · repeat refine returns_bind fun _ => ?_
    exact returns_pure (h _ _)

theorem nameless_bracketed : Nameless (bracketed r) := by
  repeat refine returns_bind fun _ => ?_
  refine returns_ite (returns_bind fun _ => returns_pure rfl) (returns_bind fun first => ?_)
  exact nameless_displayRest r fun _ _ => rfl

theorem nameless_dictRest (start : Place) (first : DictItem) :
    Nameless (dictRest r start first) := by
  repeat refine returns_bind fun _ => ?_
  exact returns_pure rfl

theorem nameless_braced : Nameless (braced r) := by
  repeat refine returns_bind fun _ => ?_
  split
  · exact returns_bind fun _ => returns_bind fun _ => returns_pure rfl
  · exact returns_bind fun _ => nameless_dictRest r _ _
  · repeat refine returns_bind fun _ => ?_
    refine returns_ite ?_ (nameless_displayRest r fun _ _ => rfl)
    repeat refine returns_bind fun _ => ?_
    refine returns_ite ?_ (nameless_dictRest r _ _)
    repeat refine returns_bind fun _ => ?_
    exact returns_pure rfl

theorem nameless_trailer (start : Place) (e : Expr) : Nameless (trailer r start e) := by
  refine returns_bind fun next => ?_
  split
  case h_4 => exact returns_reject
  all_goals
    repeat refine returns_bind fun _ => ?_
    exact returns_pure rfl

theorem nameless_yieldExpression : Nameless (yieldExpression r) := by
  repeat refine returns_bind fun _ => ?_
  refine returns_ite ?_ ?_
  all_goals exact returns_bind fun _ => returns_bind fun _ => returns_pure rfl

theorem nameless_lambda : Nameless (lambda r) := by
  repeat refine returns_bind fun _ => ?_
  exact returns_pure rfl

theorem bare_atom : Bare (atom r) := by
  intro c e c' h hname
  obtain ⟨start, _, ⟨⟩, h⟩ := run_bind_eq_some.mp h
  dsimp only at h
  obtain ⟨l, _, ⟨⟩, h⟩ := run_bind_eq_some.mp h
  obtain ⟨tokens, last⟩ := c
  cases tokens with
  | nil => cases h
  | cons t rest =>
      refine ⟨t, rest, rfl, ?_⟩
      dsimp only [Cursor.next] at h
      split at h
      case h_1 id plain hl =>
        obtain ⟨t', c₁, ⟨⟩, h⟩ := run_bind_eq_some.mp h
        obtain ⟨span, c₂, ⟨⟩, h⟩ := run_bind_eq_some.mp h
        cases h
        exact .inr ⟨id, plain, _, hl, rfl, rfl⟩
      case h_7 hl => exact .inl hl
      case h_6 => simp [nameless_strings r h] at hname
      case h_8 => simp [nameless_bracketed r h] at hname
      case h_9 => simp [nameless_braced r h] at hname
      case h_11 => cases h
      all_goals
        -- The constants of one token.
        obtain ⟨t', c₁, ⟨⟩, h⟩ := run_bind_eq_some.mp h
        obtain ⟨span, c₂, ⟨⟩, h⟩ := run_bind_eq_some.mp h
        cases h
        cases hname

theorem bare_primary : Bare (primary r) :=
  bare_look fun start => (bare_atom r).bare_bind fun e =>
    keeps_extendLeft (nameless_trailer r start) _ e

theorem bare_awaited : Bare (awaited r) :=
  bare_look fun _ => bare_ite (declines_wordIfNext _)
    (returns_bind fun _ => returns_bind fun _ => returns_pure rfl) (bare_primary r)

theorem bare_power : Bare (power r) :=
  bare_look fun _ => (bare_awaited r).bare_bind fun _ => keeps_ite (declines_signIfNext _)
    (returns_bind fun _ => returns_bind fun _ => returns_pure rfl)

theorem bare_factor : Bare (factor r) := by
  refine bare_look fun _ => bare_look fun l => ?_
  split
  · exact Nameless.bare (returns_bind fun _ => returns_bind fun _ => returns_bind fun _ =>
      returns_pure rfl)
  · exact bare_power r

theorem bare_leftAssociative {op? : Lexeme → Option BinaryOp} {operand : Parser Expr}
    (h : Bare operand) : Bare (leftAssociative r op? operand) := by
  refine bare_look fun start => h.bare_bind fun first => keeps_extendLeft (fun left => ?_) _ _
  refine returns_bind fun l => ?_
  split
  · exact returns_bind fun _ => returns_bind fun _ => returns_bind fun _ => returns_pure rfl
  · exact returns_reject

theorem bare_union : Bare (union r) := by
  unfold union exclusive meet shift sum term
  iterate 6 apply bare_leftAssociative
  exact bare_factor r

theorem bare_comparison : Bare (comparison r) := by
  refine bare_look fun start => (bare_union r).bare_bind fun left => ?_
  refine (declines_many _ _).keeps_bind (fun rest hrest => ?_) fun rest hrest => ?_
  · simpa [hrest] using keeps_pure left
  · simp only [hrest]
    exact returns_bind fun _ => returns_pure rfl

theorem bare_negation : Bare (negation r) :=
  bare_look fun _ => bare_ite (declines_wordIfNext _)
    (returns_bind fun _ => returns_bind fun _ => returns_pure rfl) (bare_comparison r)

theorem bare_joinedBy {w : Reserved} {op : BoolOp} {operand : Parser Expr} (h : Bare operand) :
    Bare (joinedBy r w op operand) := by
  refine bare_look fun start => h.bare_bind fun first => ?_
  refine (declines_many _ _).keeps_bind (fun rest hrest => ?_) fun rest hrest => ?_
  · simpa [hrest] using keeps_pure first
  · simp only [hrest]
    exact returns_bind fun _ => returns_pure rfl

theorem bare_disjunction : Bare (disjunction r) :=
  bare_joinedBy r (bare_joinedBy r (bare_negation r))

theorem bare_expression : Bare (expression r) := by
  refine bare_ite (declines_nextIs _) (nameless_lambda r) (bare_look fun start => ?_)
  refine (bare_disjunction r).bare_bind fun body => ?_
  refine (declines_attempt _).keeps_bind (fun e? he => ?_) fun e? he => ?_
  · obtain rfl : e? = none := by simpa using he
    exact keeps_pure body
  · obtain ⟨e, rfl⟩ := Option.isSome_iff_exists.mp he
    exact returns_bind fun _ => returns_pure rfl

/-- **A name that is read as expressions is read alone, or from a parenthesis on.** -/
theorem bare_yieldOrExpressions (h : Bare r.expression) : Bare (yieldOrExpressions r) := by
  have hitem : Bare (starredOrExpression r) :=
    bare_look fun _ => bare_ite (declines_signIfNext _)
      (returns_bind fun _ => returns_bind fun _ => returns_pure rfl) h
  refine bare_ite (declines_nextIs _) (nameless_yieldExpression r) ?_
  refine bare_look fun start => hitem.bare_bind fun first => keeps_ite (declines_nextIs _) ?_
  exact returns_bind fun _ => returns_bind fun _ => returns_bind fun _ => returns_pure rfl

end Productions

end Standin.Source
