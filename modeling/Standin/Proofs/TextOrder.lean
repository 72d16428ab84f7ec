/-
Tokens stand in the order of the text.

A place comes before another one if it is on an earlier line, or further left on the same one, and
reading on leads to later places only.  So the tokens of a text stand one after another (`InRow`):
none begins before the one in front of it ends, and all but the marks of layout are at least one
character long.  Of a literal with replacement fields, the characters that the token keeps lie
within the token.
-/
import Standin.Proofs.Spelling

set_option autoImplicit false

namespace Standin.Source

open Lexer

/-! ## The order of places -/

instance : LE Place := ⟨fun p q => p.line < q.line ∨ p.line = q.line ∧ p.col ≤ q.col⟩

instance : LT Place := ⟨fun p q => p.line < q.line ∨ p.line = q.line ∧ p.col < q.col⟩

theorem Place.le_iff {p q : Place} : p ≤ q ↔ p.line < q.line ∨ p.line = q.line ∧ p.col ≤ q.col :=
  .rfl

theorem Place.lt_iff {p q : Place} : p < q ↔ p.line < q.line ∨ p.line = q.line ∧ p.col < q.col :=
  .rfl

instance : LinearOrder Place where
  le_refl p := .inr ⟨rfl, Nat.le_refl _⟩
  le_trans p q r hpq hqr := by
    rw [Place.le_iff] at *
    omega
  lt_iff_le_not_ge p q := by
    rw [Place.lt_iff, Place.le_iff, Place.le_iff]
    omega
  le_antisymm p q hpq hqp := by
    obtain ⟨line, col⟩ := p
    obtain ⟨line', col'⟩ := q
    rw [Place.le_iff] at hpq hqp
    rw [Place.mk.injEq]
    dsimp only at hpq hqp
    omega
  le_total p q := by
    rw [Place.le_iff, Place.le_iff]
    omega
  toDecidableLE p q := inferInstanceAs (Decidable (_ ∨ _ ∧ _))

namespace Place

variable {p q : Place} {c d : Char} {cs : List Char}

theorem afterAll_cons (p : Place) (c : Char) (cs : List Char) :
    p.afterAll (c :: cs) = (p.after c).afterAll cs := rfl

/-- The place one column further on. -/
def beyond (p : Place) : Place := ⟨p.line, p.col + 1⟩

theorem lt_beyond (p : Place) : p < p.beyond := lt_iff.mpr (.inr ⟨rfl, Nat.lt_succ_self _⟩)

/-- A character takes up a column at least, if it does not end the line. -/
theorem beyond_le_after (h : p ≤ q) (c : Char) : p.beyond ≤ q.after c := by
  have hsize := c.utf8Size_pos
  rw [le_iff] at h
  rw [after]
  split <;> rw [le_iff] <;> dsimp only [beyond] <;> omega

theorem lt_after (p : Place) (c : Char) : p < p.after c :=
  p.lt_beyond.trans_le (beyond_le_after (le_refl p) c)

theorem after_mono (h : p ≤ q) (c : Char) : p.after c ≤ q.after c := by
  rw [le_iff] at h
  rw [after, after]
  split <;> rw [le_iff] <;> dsimp only <;> omega

theorem afterAll_mono (h : p ≤ q) (cs : List Char) : p.afterAll cs ≤ q.afterAll cs := by
  induction cs generalizing p q with
  | nil => exact h
  | cons c cs ih => exact ih (after_mono h c)

theorem le_afterAll (p : Place) (cs : List Char) : p ≤ p.afterAll cs := by
  induction cs generalizing p with
  | nil => exact le_refl p
  | cons c cs ih => exact (p.lt_after c).le.trans (ih _)

theorem lt_afterAll (p : Place) (hne : cs ≠ []) : p < p.afterAll cs := by
  obtain ⟨c, cs, rfl⟩ := List.exists_cons_of_ne_nil hne
  exact (p.lt_after c).trans_le (le_afterAll _ cs)

/-- So many characters take up so many columns at least. -/
theorem shifted_le_afterAll (p : Place) (cs : List Char) :
    ⟨p.line, p.col + cs.length⟩ ≤ p.afterAll cs := by
  induction cs generalizing p with
  | nil => exact le_refl p
  | cons c cs ih =>
      have hfirst := beyond_le_after (le_refl p) c
      refine le_trans ?_ (ih (p.after c))
      rw [le_iff] at hfirst ⊢
      dsimp only [beyond, List.length_cons] at hfirst ⊢
      omega

end Place

/-! ## The characters of a token -/

namespace Numeral

theorem length_lt_of_digitRun {isDigit : Char → Bool} {cs ds rest : List Char}
    (h : digitRun isDigit cs = some (ds, rest)) :
    rest.length ≤ cs.length ∧ (ds ≠ [] → rest.length < cs.length) := by
  fun_induction digitRun isDigit cs generalizing ds rest with
  | case1 =>
      cases h
      simp
  | case2 c cs hc ih =>
      obtain ⟨⟨ds', rest'⟩, hds, ⟨⟩⟩ := Option.map_eq_some_iff.mp h
      have hshort := (ih hds).1
      simp only [List.length_cons]
      omega
  | case3 d tail _ _ ih =>
      have hshort := (ih h).1
      simp only [List.length_cons] at hshort ⊢
      omega
  | case4 => cases h
  | case5 => cases h
  | case6 =>
      cases h
      simp

theorem length_lt_of_digitRun₁ {isDigit : Char → Bool} {cs ds rest : List Char}
    (h : digitRun₁ isDigit cs = some (ds, rest)) : rest.length < cs.length := by
  unfold digitRun₁ at h
  split at h
  · cases h
  · next hsome =>
    refine (length_lt_of_digitRun h).2 fun hnil => ?_
    subst hnil
    exact hsome rest h

theorem Leaves.length_le {cs rest : List Char} (h : Leaves cs rest) : rest.length ≤ cs.length := by
  obtain ⟨used, -, rfl⟩ := h
  simp

/-- A numeral is not empty. -/
theorem length_lt_of_read {cs rest : List Char} {v : Literal} (h : read cs = some (v, rest)) :
    rest.length < cs.length := by
  unfold read at h
  split at h
  case h_7 => exact Nat.lt_succ_of_le (leaves_of_afterPoint h).length_le
  case h_8 =>
    obtain ⟨⟨ds, left⟩, hds, h⟩ := Option.bind_eq_some_iff.mp h
    exact (leaves_of_afterWhole h).length_le.trans_lt (length_lt_of_digitRun₁ hds)
  all_goals
    have hleaves := (leaves_of_based (by decide) h).length_le
    simp only [List.length_cons]
    omega

end Numeral

namespace Lexer

theorem isNameLike_of_beginsName {c : Char} (h : beginsName c = true) : isNameLike c = true := by
  simp only [beginsName, isNameLike, Char.isAlphanum, Bool.or_eq_true] at h ⊢
  exact h.imp_left (·.imp_left .inl)

theorem isQuote_of_stringHead? {cs letters rest : List Char} {quote : Char}
    (h : stringHead? cs = some (letters, quote, rest)) : isQuote quote = true := by
  unfold stringHead? at h
  repeat' split at h
  all_goals try cases h
  · assumption
  all_goals
    obtain ⟨m, -, ⟨⟩⟩ := Option.map_eq_some_iff.mp h
    assumption

/-- A string literal ends with its quote; the characters of one with fields stand before that, after
its letters and quotes. -/
theorem string?_body {letters rest used left : List Char} {quote : Char} {l : Lexeme}
    (h : string? letters quote rest = some (l, used, left)) :
    used.getLast? = some quote ∧ ∀ raw opening body marked,
      l = .string (.fields raw opening body) marked →
        ∃ before after, used = before ++ (body ++ after) ∧ before.length = opening := by
  -- The characters with fields are kept as they were given, and so is where they begin.
  have hpiece {m : Marks} {opening opening' : Nat} {body body' : List Char} {raw : Bool}
      (h : piece? m opening body = some (.fields raw opening' body')) :
      opening' = opening ∧ body' = body := by
    unfold piece? at h
    split_ifs at h
    · cases h
      exact ⟨rfl, rfl⟩
    · obtain ⟨_, -, ⟨⟩⟩ := Option.map_eq_some_iff.mp h
    · obtain ⟨_, -, ⟨⟩⟩ := Option.map_eq_some_iff.mp h
  simp only [string?, Option.bind_eq_bind, Option.bind_eq_some_iff] at h
  obtain ⟨m, -, h⟩ := h
  split at h
  · obtain ⟨⟨body, rest'⟩, -, h⟩ := Option.bind_eq_some_iff.mp h
    obtain ⟨piece, hpiece', ⟨⟩⟩ := Option.bind_eq_some_iff.mp h
    refine ⟨by rw [List.getLast?_append]; rfl, ?_⟩
    rintro raw opening body' marked ⟨⟩
    obtain ⟨rfl, rfl⟩ := hpiece hpiece'
    exact ⟨letters ++ [quote, quote, quote], [quote, quote, quote], by simp, by simp⟩
  · obtain ⟨⟨body, rest'⟩, -, h⟩ := Option.bind_eq_some_iff.mp h
    obtain ⟨piece, hpiece', ⟨⟩⟩ := Option.bind_eq_some_iff.mp h
    refine ⟨by rw [List.getLast?_append]; rfl, ?_⟩
    rintro raw opening body' marked ⟨⟩
    obtain ⟨rfl, rfl⟩ := hpiece hpiece'
    exact ⟨letters ++ [quote], [quote], by simp, by simp⟩

/-- A lexeme has a last character, which is no line end. -/
theorem getLast?_of_lexeme? {cs used rest : List Char} {l : Lexeme}
    (h : lexeme? cs = some (l, used, rest)) : ∃ c, used.getLast? = some c ∧ c ≠ '\n' := by
  have hlast {used : List Char} (hne : used ≠ []) (hline : '\n' ∉ used) :
      ∃ c, used.getLast? = some c ∧ c ≠ '\n' :=
    ⟨_, List.getLast?_eq_some_getLast hne, fun hc => hline (hc ▸ List.getLast_mem hne)⟩
  unfold lexeme? at h
  split at h
  · next letters quote tail hhead =>
    refine ⟨quote, (string?_body h).1, ?_⟩
    rintro rfl
    exact absurd (isQuote_of_stringHead? hhead) (by decide)
  · split at h
    · cases h
    · next c tail =>
      split at h
      · next hbegins =>
        obtain ⟨l', -, ⟨⟩⟩ := Option.map_eq_some_iff.mp h
        -- A word is a run of characters of names, of which the line end is none.
        refine hlast ?_ fun hline => absurd (List.mem_takeWhile_imp hline) (by decide)
        rw [List.takeWhile_cons_of_pos (isNameLike_of_beginsName hbegins)]
        exact List.cons_ne_nil _ _
      · split at h
        · obtain ⟨⟨v, rest'⟩, hread, ⟨⟩⟩ := Option.map_eq_some_iff.mp h
          obtain ⟨used, hline, hused⟩ := Numeral.leaves_of_read hread
          have hshort := Numeral.length_lt_of_read hread
          rw [hused, List.length_append] at hshort
          rw [hused, List.length_append, Nat.add_sub_cancel, List.take_left]
          exact hlast (List.ne_nil_of_length_pos (by omega)) hline
        · obtain ⟨⟨spelling, s⟩, hsign, ⟨⟩⟩ := Option.map_eq_some_iff.mp h
          have hspelled : ∀ entry ∈ Sign.table, entry.1 ≠ [] ∧ '\n' ∉ entry.1 := by decide
          obtain ⟨hne, hline⟩ := hspelled _ (mem_table_of_atHead? hsign)
          exact hlast hne hline

theorem word?_ne_string {cs : List Char} {piece : StringPiece} {marked : Bool} :
    word? cs ≠ some (.string piece marked) := by
  unfold word?
  split
  · dsimp only
    split <;> simp
  · split <;> simp

theorem body_of_lexeme? {cs used rest : List Char} {raw marked : Bool} {opening : Nat}
    {body : List Char}
    (h : lexeme? cs = some (.string (.fields raw opening body) marked, used, rest)) :
    ∃ before after, used = before ++ (body ++ after) ∧ before.length = opening := by
  unfold lexeme? at h
  split at h
  · exact (string?_body h).2 raw opening body marked rfl
  · split at h
    · cases h
    · split_ifs at h
      · obtain ⟨l, hword, heq⟩ := Option.map_eq_some_iff.mp h
        rw [(Prod.mk.inj heq).1] at hword
        exact absurd hword word?_ne_string
      · obtain ⟨_, -, heq⟩ := Option.map_eq_some_iff.mp h
        cases (Prod.mk.inj heq).1
      · obtain ⟨_, -, heq⟩ := Option.map_eq_some_iff.mp h
        cases (Prod.mk.inj heq).1

end Lexer

/-! ## Tokens one after another -/

/-- That a token takes up its place: it has characters unless it is a mark of layout, and those that
may hold fields lie within it. -/
structure Token.Stands (t : Token) : Prop where
  le : t.span.start ≤ t.span.stop
  lt : t.isLayout = false → t.span.start < t.span.stop
  body : ∀ raw opening body marked, t.lexeme = .string (.fields raw opening body) marked →
    Place.afterAll ⟨t.span.start.line, t.span.start.col + opening⟩ body ≤ t.span.stop

theorem Token.stands_of_isLayout {t : Token} {p : Place} (ht : t.isLayout = true)
    (hspan : t.span = ⟨p, p⟩) : t.Stands where
  le := by rw [hspan]
  lt h := by simp [h] at ht
  body raw opening body marked hl := by simp [isLayout, hl] at ht

theorem Token.stands_of_lexeme? {t : Token} {p : Place} {cs used rest : List Char}
    (h : lexeme? cs = some (t.lexeme, used, rest)) (hspan : t.span = ⟨p, p.afterAll used⟩) :
    t.Stands := by
  obtain ⟨c, hlast, -⟩ := getLast?_of_lexeme? h
  have hne : used ≠ [] := by
    rintro rfl
    cases hlast
  have hlt : t.span.start < t.span.stop := by
    rw [hspan]
    exact p.lt_afterAll hne
  refine ⟨hlt.le, fun _ => hlt, fun raw opening body marked hl => ?_⟩
  rw [hl] at h
  obtain ⟨before, after, rfl, rfl⟩ := body_of_lexeme? h
  rw [hspan, Place.afterAll_append, Place.afterAll_append]
  exact (Place.afterAll_mono (p.shifted_le_afterAll before) body).trans (Place.le_afterAll _ after)

/-- That the tokens stand one after another from a place on. -/
inductive InRow : Place → List Token → Prop
  | nil (p : Place) : InRow p []
  | cons {p : Place} {t : Token} {ts : List Token} (hstart : p ≤ t.span.start) (ht : t.Stands)
    (hts : InRow t.span.stop ts) : InRow p (t :: ts)

theorem InRow.mono {p q : Place} {ts : List Token} (hpq : p ≤ q) (h : InRow q ts) : InRow p ts := by
  cases h with
  | nil => exact .nil p
  | cons hstart ht hts => exact .cons (hpq.trans hstart) ht hts

/-- The tokens that spell a text stand one after another. -/
theorem Spells.inRow {p : Place} {cs : List Char} {ts : List Token} (h : Spells p cs ts) :
    InRow p ts := by
  induction h with
  | done _ => exact .nil _
  | gap _ _ ih => exact ih.mono (Place.le_afterAll _ _)
  | layout ht hspan _ ih =>
      have hstands := Token.stands_of_isLayout ht hspan
      refine .cons (by rw [hspan]) hstands ?_
      rwa [hspan]
  | lexeme ht hspan _ ih =>
      have hstands := Token.stands_of_lexeme? ht hspan
      refine .cons (by rw [hspan]) hstands ?_
      rwa [hspan]

/-- The tokens of a text that ends a line end before that. -/
theorem Spells.stop_le {p : Place} {cs : List Char} {ts : List Token} {t : Token}
    (h : Spells p (cs ++ ['\n']) ts) (ht : t ∈ ts) (hlayout : t.isLayout = false) :
    t.span.stop ≤ p.afterAll cs := by
  -- The text up to the token is taken off first, so that the token is the next one.
  obtain ⟨before, after, rfl⟩ := List.append_of_mem ht
  obtain ⟨consumed, left, hcs, hleft⟩ := h.drop
  obtain ⟨g, used, rest, -, rfl, hlexeme, hspan, -⟩ := hleft.head hlayout
  obtain ⟨c, hlast, hc⟩ := getLast?_of_lexeme? hlexeme
  obtain rfl | ⟨rest, d, rfl⟩ := List.eq_nil_or_concat rest
  · -- Nothing is left after the token, so the line would end within it.
    have hend := congrArg List.getLast? hcs
    rw [List.append_nil, List.getLast?_append, List.getLast?_append, List.getLast?_append, hlast]
      at hend
    exact absurd (Option.some.inj hend).symm hc
  · have hcs' : cs ++ ['\n'] = (consumed ++ (g ++ (used ++ rest))) ++ [d] := by simp [hcs]
    obtain ⟨rfl, -⟩ := List.append_inj' hcs' rfl
    rw [hspan, Place.afterAll_append, Place.afterAll_append, Place.afterAll_append]
    exact Place.le_afterAll _ rest

end Standin.Source
