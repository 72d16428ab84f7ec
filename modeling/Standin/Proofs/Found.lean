/-
Which declarations of the marker are found in the text.

Whether a module is opened is asked of its text, and the marker is replaced in its tree.  A
declaration that the tree has at the start of a line is written there in the text, with a
parenthesis before the name or with the name, in one of its spellings, up to the sign of a value
or an annotation (`Spelled`).  It is found exactly if the line begins plainly: after a line feed,
with the name as it is, blanks, and what the text takes for a value or an annotation.
-/
import Standin.Proofs.Spelling
import Standin.Proofs.Declaring
import Standin.Proofs.Triggers
import Standin.Proofs.Opened

set_option autoImplicit false

namespace Standin

namespace Source

open Lexer

/-! ## Declarations of the marker in the text -/

/-- That a text begins as a declaration of the marker may be written: with a parenthesis, or with a
spelling of the name and, maybe after a gap, the sign of a value or of an annotation. -/
inductive Spelled : List Char → Prop
  | parenthesis (rest : List Char) : Spelled ('(' :: rest)
  | name {w gap : List Char} {sign : Char} {rest : List Char}
    (hw : ∃ plain, word? w = some (.name markerName plain)) (hlike : ∀ c ∈ w, isNameLike c = true)
    (hgap : Gap (unifyLines gap)) (hsign : sign = '=' ∨ sign = ':')
    (hrest : rest.head? ≠ some '=') :
    Spelled (w ++ (gap ++ sign :: rest))

/-- The marker's declaration in the text of the tokens: a parenthesis, or the name, a gap and a
sign. -/
theorem exists_spelled_of_spells {p : Place} {cs : List Char} {before : List Token} {c : Cursor}
    (h : Spells p cs (before ++ c.tokens)) (hc : c.AtMarker) :
    ∃ consumed used rest, cs = consumed ++ (used ++ rest) ∧ c.start = p.afterAll consumed ∧
      (used = ['('] ∨ ((∀ d ∈ used, isNameLike d = true) ∧
        (∃ plain, word? used = some (.name markerName plain)) ∧
        ∃ gap sign tail, rest = gap ++ sign :: tail ∧ Gap gap ∧ (sign = '=' ∨ sign = ':') ∧
          tail.head? ≠ some '=')) := by
  obtain ⟨t, ts, htokens, hat⟩ := hc
  obtain ⟨consumed, left, rfl, hleft⟩ := h.drop
  rw [htokens] at hleft
  have hlayout : t.isLayout = false := by
    obtain hparen | ⟨⟨plain, hname⟩, -⟩ := hat <;> simp [Token.isLayout, *]
  obtain ⟨g, used, rest, -, rfl, hlexeme, hspan, hrest⟩ := hleft.head hlayout
  refine ⟨consumed ++ g, used, rest, by simp, ?_, ?_⟩
  · rw [Cursor.start, htokens, Place.afterAll_append]
    exact congrArg Span.start hspan
  · obtain hparen | ⟨⟨plain, hname⟩, t', ts', rfl, hsign⟩ := hat
    · rw [hparen] at hlexeme
      exact .inl (eq_of_atHead?_openParen (atHead?_of_lexeme? hlexeme))
    · rw [hname] at hlexeme
      obtain ⟨hword, hlike⟩ := word?_of_lexeme? hlexeme
      have hlayout' : t'.isLayout = false := by
        obtain hsign | hsign := hsign <;> simp [Token.isLayout, hsign]
      -- The sign is the next token, so that nothing but a gap is between it and the name.
      obtain ⟨gap, used', rest', hgap, rfl, hlexeme', -, -⟩ := hrest.head hlayout'
      obtain ⟨s, hs, hlexeme'⟩ : ∃ s, (s = .equal ∨ s = .colon) ∧
          lexeme? (used' ++ rest') = some (.sign s, used', rest') := by
        obtain hsign | hsign := hsign <;> rw [hsign] at hlexeme'
        · exact ⟨_, .inl rfl, hlexeme'⟩
        · exact ⟨_, .inr rfl, hlexeme'⟩
      obtain ⟨sign, tail, hdeclaring, -, htail, hhead⟩ :=
        eq_of_atHead?_declaring hs (atHead?_of_lexeme? hlexeme')
      exact .inr ⟨hlike, ⟨plain, hword⟩, gap, sign, tail, by rw [htail], hgap, hdeclaring, hhead⟩

/-- The reading of a module. -/
theorem readModule_eq_ok {source : String} {tree : Module} (h : readModule source = .ok tree) :
    ∃ tokens c, Spells ⟨1, 0⟩ (closeLastLine (unifyLines source.toList)) tokens ∧
      (moduleBody (rulesFor tokens (closeLastLine (unifyLines source.toList)))).run
        ⟨tokens, ⟨1, 0⟩⟩ = some (tree, c) := by
  unfold readModule at h
  dsimp only at h
  split at h
  · cases h
  · unfold readTokens at h
    split at h
    · cases h
    · next tokens htokens =>
      split at h
      · next a c hrun =>
        cases h
        exact ⟨tokens, c, spells_of_tokenize htokens, hrun⟩
      · cases h

/-- What holds no line end stands in the text as it stands in the text with unified line ends. -/
theorem unifyLines_eq_append_of_not_mem {cs x y : List Char} (h : unifyLines cs = x ++ y)
    (hx : '\n' ∉ x) : ∃ b, cs = x ++ b ∧ unifyLines b = y := by
  obtain ⟨a, b, rfl, rfl, hb⟩ := unifyLines_eq_append h
  exact ⟨b, by rw [unifyLines_eq_self hx], hb⟩

theorem not_mem_of_isNameLike {w : List Char} (h : ∀ c ∈ w, isNameLike c = true) : '\n' ∉ w :=
  fun hline => absurd (h _ hline) (by decide)

/-- **A declaration of the marker stands in the text**, at the place where it begins. -/
theorem exists_spelled {source : String} {tree : Module} {s : Stmt}
    (hread : readModule source = .ok tree) (hs : s ∈ tree.body)
    (hmarker : declaresMarker s = true) :
    ∃ before after, source.toList = before ++ after ∧
      s.span.start = Place.afterAll ⟨1, 0⟩ (unifyLines before) ∧ Spelled after := by
  obtain ⟨tokens, c, hspells, hrun⟩ := readModule_eq_ok hread
  obtain ⟨c₁, hreads, hat, hstart⟩ := atMarker_of_moduleBody _ (bare_expression _) hrun hs hmarker
  obtain ⟨earlier, rfl⟩ : ∃ earlier, tokens = earlier ++ c₁.tokens := hreads.exists_append
  obtain ⟨consumed, used, rest, hcs, hplace, hform⟩ := exists_spelled_of_spells hspells hat
  rw [hstart, hplace]
  -- What was read is the text with unified line ends and a last one: the parts are found in the
  -- text itself, one after another.
  obtain rfl | ⟨hlike, ⟨plain, hword⟩, gap, sign, tail, rfl, hgap, hsign, htail⟩ := hform
  · obtain ⟨rest', hunified, -⟩ := closeLastLine_eq_append (by decide) hcs
    obtain ⟨before, after, hsource, rfl, hafter⟩ := unifyLines_eq_append hunified
    obtain ⟨left, rfl, -⟩ := unifyLines_eq_append_of_not_mem (x := ['(']) hafter (by decide)
    exact ⟨before, _, hsource, rfl, .parenthesis left⟩
  · have hne : sign ≠ '\n' := by obtain rfl | rfl := hsign <;> decide
    have hcs' : closeLastLine (unifyLines source.toList) =
        (consumed ++ (used ++ gap)) ++ sign :: tail := by simp [hcs]
    obtain ⟨tail', hunified, htail'⟩ := closeLastLine_eq_append hne hcs'
    rw [List.append_assoc, List.append_assoc] at hunified
    obtain ⟨before, after, hsource, rfl, hafter⟩ := unifyLines_eq_append hunified
    obtain ⟨left, rfl, hgapped⟩ :=
      unifyLines_eq_append_of_not_mem hafter (not_mem_of_isNameLike hlike)
    obtain ⟨gap, left, rfl, rfl, hsigned⟩ := unifyLines_eq_append hgapped
    obtain ⟨left, rfl, hleft⟩ :=
      unifyLines_eq_append_of_not_mem (x := [sign]) hsigned (by simpa using hne.symm)
    refine ⟨before, _, hsource, rfl, .name ⟨plain, hword⟩ hlike hgap hsign fun hhead => htail ?_⟩
    obtain ⟨left, rfl⟩ := List.head?_eq_some_iff.mp hhead
    obtain rfl | rfl := htail' <;> rw [← hleft] <;> rfl

/-! ### Plain declarations -/

/-- After the blanks that a gap begins with comes a blank that is none within a line, the end of the
line, or a comment. -/
theorem Gap.first {g : List Char} (h : Gap g) {blanks rest : List Char} {d : Char}
    (heq : g = blanks ++ d :: rest) (hblanks : ∀ c ∈ blanks, Trigger.isInlineBlank c = true) :
    isSeparator d = true ∨ d = '\n' ∨ d = '\\' ∨ d = '#' := by
  -- A character that is no blank within a line comes right after the blanks.
  have head {c : Char} {g blanks : List Char} (hc : Trigger.isInlineBlank c = false)
      (heq : c :: g = blanks ++ d :: rest)
      (hblanks : ∀ c ∈ blanks, Trigger.isInlineBlank c = true) : d = c := by
    cases blanks with
    | nil => exact (List.cons.inj heq).1.symm
    | cons b blanks =>
        obtain ⟨rfl, -⟩ := List.cons.inj heq
        simp [hblanks] at hc
  induction h generalizing blanks with
  | nil => simp at heq
  | @blank c g hc hg ih =>
      cases blanks with
      | nil => exact .inl ((List.cons.inj heq).1 ▸ hc)
      | cons b blanks => exact ih (List.cons.inj heq).2 (List.forall_mem_cons.mp hblanks).2
  | lineEnd => exact .inr (.inl (head rfl heq hblanks))
  | continued => exact .inr (.inr (.inl (head rfl heq hblanks)))
  | comment => exact .inr (.inr (.inr (head rfl heq hblanks)))

theorem unifyLines_append_of_not_mem {cs ds : List Char} (h : '\r' ∉ cs) :
    unifyLines (cs ++ ds) = cs ++ unifyLines ds := by
  induction cs with
  | nil => rfl
  | cons c cs ih =>
      obtain ⟨hc, hcs⟩ := not_or.mp (mt List.mem_cons.mpr h)
      have hstep := unifyLines.eq_3 c (cs ++ ds) (fun _ hr _ => hc hr.symm) fun hr => hc hr.symm
      rw [List.cons_append, hstep, ih hcs]
      rfl

/-- Where a stretch of characters of a class ends is the same however the text is put together. -/
theorem eq_of_append_cons {p : Char → Bool} {xs ys as bs : List Char} {a b : Char}
    (hxs : ∀ c ∈ xs, p c = true) (hys : ∀ c ∈ ys, p c = true) (ha : p a = false) (hb : p b = false)
    (h : xs ++ a :: as = ys ++ b :: bs) : xs = ys ∧ a = b ∧ as = bs := by
  -- The stretch is the longest one of its class at the front of the text.
  have htake {zs cs : List Char} {c : Char} (hzs : ∀ c ∈ zs, p c = true) (hc : p c = false) :
      (zs ++ c :: cs).takeWhile p = zs := by
    rw [List.takeWhile_append_of_pos hzs, List.takeWhile_cons_of_neg (by simp [hc]),
      List.append_nil]
  obtain rfl : xs = ys := by rw [← htake hxs ha, h, htake hys hb]
  exact ⟨rfl, List.cons.inj (List.append_cancel_left h)⟩

/-- A character that a gap may hold after blanks begins neither a name nor a value or an
annotation. -/
theorem Gap.not_first {gap blanks left : List Char} {d : Char} (hgap : Gap (unifyLines gap))
    (heq : gap = blanks ++ d :: left) (hblanks : ∀ c ∈ blanks, Trigger.isInlineBlank c = true) :
    isNameLike d = false ∧ d ≠ '=' ∧ d ≠ ':' := by
  by_cases hreturn : d = '\r'
  · subst hreturn
    decide
  · have hnone : '\r' ∉ blanks ++ [d] := by
      intro h
      obtain h | h := List.mem_append.mp h
      · exact absurd (hblanks _ h) (by decide)
      · exact hreturn (List.mem_singleton.mp h).symm
    have hunified : unifyLines gap = blanks ++ d :: unifyLines left := by
      rw [heq, List.append_cons, unifyLines_append_of_not_mem hnone, List.append_assoc]
      rfl
    have hd := hgap.first hunified hblanks
    simp only [isSeparator, Bool.or_eq_true, beq_iff_eq] at hd
    obtain ((rfl | rfl) | rfl) | rfl | rfl | rfl := hd <;> decide

theorem isInlineBlank_of_sign {c : Char} (h : c = '=' ∨ c = ':') :
    Trigger.isInlineBlank c = false := by
  obtain rfl | rfl := h <;> decide

section Parts

variable {w gap blanks rest tail : List Char} {sign d : Char}

/-- A name and what is after it up to a sign are told apart in one way: the name ends where the
gap, or the sign, begins. -/
theorem eq_markerName_of_append (hlike : ∀ c ∈ w, isNameLike c = true)
    (hgap : Gap (unifyLines gap)) (hblanks : ∀ c ∈ blanks, Trigger.isInlineBlank c = true)
    (hsign : sign = '=' ∨ sign = ':') (hd : d = '=' ∨ d = ':')
    (h : w ++ (gap ++ sign :: rest) = markerName.toList ++ (blanks ++ d :: tail)) :
    w = markerName.toList ∧ gap ++ sign :: rest = blanks ++ d :: tail := by
  have hname : ∀ c ∈ markerName.toList, isNameLike c = true := List.all_eq_true.mp (by decide)
  obtain ⟨c, cs, hcs, hc⟩ : ∃ c cs, gap ++ sign :: rest = c :: cs ∧ isNameLike c = false := by
    cases gap with
    | nil => exact ⟨sign, rest, rfl, by obtain rfl | rfl := hsign <;> decide⟩
    | cons c gap =>
        have hfirst := hgap.not_first (List.nil_append _).symm (List.forall_mem_nil _)
        exact ⟨c, _, rfl, hfirst.1⟩
  obtain ⟨b, bs, hbs, hb⟩ : ∃ b bs, blanks ++ d :: tail = b :: bs ∧ isNameLike b = false := by
    cases blanks with
    | nil => exact ⟨d, tail, rfl, by obtain rfl | rfl := hd <;> decide⟩
    | cons b blanks =>
        have hb := hblanks b (.head _)
        simp only [Trigger.isInlineBlank, Bool.or_eq_true, beq_iff_eq] at hb
        exact ⟨b, _, rfl, by obtain rfl | rfl := hb <;> decide⟩
  rw [hcs, hbs] at h ⊢
  obtain ⟨hw, rfl, rfl⟩ := eq_of_append_cons hlike hname hc hb h
  exact ⟨hw, rfl⟩

/-- A gap up to a sign that is also blanks up to a sign is these blanks. -/
theorem Gap.eq_blanks_of_append (hgap : Gap (unifyLines gap))
    (hblanks : ∀ c ∈ blanks, Trigger.isInlineBlank c = true) (hsign : sign = '=' ∨ sign = ':')
    (hd : d = '=' ∨ d = ':') (h : gap ++ sign :: rest = blanks ++ d :: tail) :
    gap = blanks ∧ sign = d ∧ rest = tail := by
  -- Else the blanks end within the gap, where neither sign can be.
  have hall : ∀ c ∈ gap, Trigger.isInlineBlank c = true := by
    rw [← List.dropWhile_eq_nil_iff]
    have hsplit := List.takeWhile_append_dropWhile (p := Trigger.isInlineBlank) (l := gap)
    have hhead := List.head?_dropWhile_not Trigger.isInlineBlank gap
    cases hdrop : gap.dropWhile Trigger.isInlineBlank with
    | nil => rfl
    | cons e left =>
        have he : Trigger.isInlineBlank e = false := by simpa [hdrop] using hhead
        rw [hdrop] at hsplit
        rw [← hsplit, List.append_assoc] at h
        have hfirst : ∀ c ∈ gap.takeWhile Trigger.isInlineBlank,
            Trigger.isInlineBlank c = true := fun c hc => List.mem_takeWhile_imp hc
        obtain ⟨-, rfl, -⟩ := eq_of_append_cons hfirst hblanks he (isInlineBlank_of_sign hd) h
        obtain ⟨-, hne⟩ := hgap.not_first hsplit.symm hfirst
        exact absurd hd (by simpa using hne)
  exact eq_of_append_cons hall hblanks (isInlineBlank_of_sign hsign) (isInlineBlank_of_sign hd) h

/-- A declaration that is written with the name begins plainly if it does so in all its parts. -/
theorem declares_name_iff (hlike : ∀ c ∈ w, isNameLike c = true) (hgap : Gap (unifyLines gap))
    (hsign : sign = '=' ∨ sign = ':') (hrest : rest.head? ≠ some '=') :
    Trigger.Declares (w ++ (gap ++ sign :: rest)) ↔
      w = markerName.toList ∧ (∀ c ∈ gap, Trigger.isInlineBlank c = true) ∧
        (sign = ':' → Trigger.BeginsHint (sign :: rest)) := by
  constructor
  · rintro ⟨blanks, left, heq, hblanks, hdeclared⟩
    obtain ⟨d, tail, rfl, hd⟩ : ∃ d tail, left = d :: tail ∧ (d = '=' ∨ d = ':') := by
      obtain ⟨tail, rfl, -⟩ | ⟨hint, tail, rfl, -⟩ := hdeclared
      · exact ⟨_, _, rfl, .inl rfl⟩
      · exact ⟨_, _, rfl, .inr rfl⟩
    obtain ⟨rfl, hafter⟩ := eq_markerName_of_append hlike hgap hblanks hsign hd heq
    obtain ⟨rfl, rfl, rfl⟩ := hgap.eq_blanks_of_append hblanks hsign hd hafter
    refine ⟨rfl, hblanks, ?_⟩
    rintro rfl
    obtain ⟨_, ⟨⟩, -⟩ | hhint := hdeclared
    exact hhint
  · rintro ⟨rfl, hblanks, hhint⟩
    refine ⟨gap, sign :: rest, rfl, hblanks, ?_⟩
    obtain rfl | rfl := hsign
    · exact .inl ⟨rest, rfl, hrest⟩
    · exact .inr (hhint rfl)

end Parts

end Source

open Source

/-- How a declaration of the marker that begins this text is written, and when it begins plainly:
never with a parenthesis, and with the name if this is written as it is, nothing but blanks comes
before the sign, and an annotation's first equals signs, if it has any, are not two of them. -/
def Source.Written (after : List Char) : Prop :=
  (after.head? = some '(' ∧ ¬ Trigger.Declares after) ∨
    ∃ w gap sign rest, after = w ++ (gap ++ sign :: rest) ∧
      (∃ plain, Lexer.word? w = some (.name markerName plain)) ∧ Gap (unifyLines gap) ∧
      (sign = '=' ∨ sign = ':') ∧
      (Trigger.Declares after ↔
        w = markerName.toList ∧ (∀ c ∈ gap, Trigger.isInlineBlank c = true) ∧
          (sign = ':' → Trigger.BeginsHint (sign :: rest)))

theorem Source.Spelled.written {after : List Char} (h : Spelled after) : Written after := by
  cases h with
  | parenthesis rest =>
      refine .inl ⟨rfl, ?_⟩
      rintro ⟨blanks, left, heq, -⟩
      exact absurd (List.cons.inj heq).1 (by decide)
  | name hw hlike hgap hsign hrest =>
      exact .inr ⟨_, _, _, _, rfl, hw, hgap, hsign, declares_name_iff hlike hgap hsign hrest⟩

/-- **When a declaration of the marker opts its module in.**  A text opts in exactly if one of its
lines, after a line feed, begins plainly with the declaration of the marker.  A declaration that
the module has at the start of a line is written there with a parenthesis or with the name, a gap
and a sign, so that it can be told from these whether the line is such a one.  A module that opts
in and is not to be ignored is opened, and the first of its declarations is replaced. -/
theorem optsIn_of_declaration (source : String) :
    (optsIn source = true ↔ ∃ before after, source.toList = before ++ after ∧
      (∀ c ∈ before.getLast?, c = '\n') ∧ Trigger.Declares after) ∧
    ∀ tree, readModule source = .ok tree → ∀ s ∈ tree.body, declaresMarker s = true →
      s.span.start.col = 0 →
      (∃ before after, source.toList = before ++ after ∧
        s.span.start = Place.afterAll ⟨1, 0⟩ (unifyLines before) ∧
        (∀ c ∈ before.getLast?, c = '\n' ∨ c = '\r') ∧ Written after) ∧
      (optsIn source = true → optsOut source = false → asksToOpen source = true ∧
        ∀ o, openTree tree source = .ok o → o.injected = true ∧ o.IsOpening tree) := by
  refine ⟨optsIn_iff source, fun tree hread s hs hmarker hcol => ⟨?_, fun hin hout => ?_⟩⟩
  · obtain ⟨before, after, hsource, hplace, hspelled⟩ := exists_spelled hread hs hmarker
    refine ⟨before, after, hsource, hplace, fun c hc => ?_, hspelled.written⟩
    rw [hplace] at hcol
    have hline := getLast?_of_col_eq_zero hcol
    rw [getLast?_unifyLines] at hline
    have hc' := hline _ (Option.mem_map_of_mem _ hc)
    split at hc'
    · next hreturn => exact .inr hreturn
    · exact .inl hc'
  · have hasks : asksToOpen source = true := by simp [asksToOpen, hin, hout]
    refine ⟨hasks, fun o ho => ?_⟩
    have hopening := openTree_isOpening hasks ho
    exact ⟨hopening.injected_iff.mpr ⟨s, hs, hmarker⟩, hopening⟩

/-- Whether the text is read as a module whose first statement declares the marker at the start of
a line. -/
def beginsWithMarker (source : String) : Bool :=
  (readModule source).toOption.any fun tree =>
    tree.body.head?.any fun s => declaresMarker s && s.span.start.col == 0

theorem exists_of_beginsWithMarker {source : String} (h : beginsWithMarker source = true) :
    ∃ tree s, readModule source = .ok tree ∧ s ∈ tree.body ∧ declaresMarker s = true ∧
      s.span.start.col = 0 := by
  unfold beginsWithMarker at h
  cases hread : readModule source with
  | error e => simp [hread, Except.toOption] at h
  | ok tree =>
      simp only [hread, Except.toOption, Option.any_some, Option.any_eq_true, Bool.and_eq_true,
        beq_iff_eq] at h
      obtain ⟨s, hs, hmarker, hcol⟩ := h
      exact ⟨tree, s, rfl, List.mem_of_mem_head? hs, hmarker, hcol⟩

/-- A module with an annotated marker opts in and is opened. -/
theorem optsIn_of_declaration_birdhouse :
    let source := "mockingbird: Final = None\n"
    ∃ tree s, readModule source = .ok tree ∧ s ∈ tree.body ∧ declaresMarker s = true ∧
      s.span.start.col = 0 ∧ optsIn source = true ∧ optsOut source = false ∧
      asksToOpen source = true ∧
      ∃ before after, source.toList = before ++ after ∧ Written after := by
  intro source
  have hmarked : beginsWithMarker source = true := by decide
  have hin : optsIn source = true := by decide
  have hout : optsOut source = false := by decide
  obtain ⟨tree, s, hread, hs, hmarker, hcol⟩ := exists_of_beginsWithMarker hmarked
  obtain ⟨⟨before, after, hsource, -, -, hwritten⟩, hopens⟩ :=
    (optsIn_of_declaration source).2 tree hread s hs hmarker hcol
  exact ⟨tree, s, hread, hs, hmarker, hcol, hin, hout, (hopens hin hout).1, before, after, hsource,
    hwritten⟩

/-- A module whose marker has an annotation with two equals signs does not opt in. -/
theorem not_optsIn_of_declaration :
    let source := "mockingbird: Annotated[Mockingbird, 'a == b'] = None\n"
    (∃ tree s, readModule source = .ok tree ∧ s ∈ tree.body ∧ declaresMarker s = true ∧
      s.span.start.col = 0) ∧ optsOut source = false ∧ optsIn source = false := by
  intro source
  have hmarked : beginsWithMarker source = true := by decide
  exact ⟨exists_of_beginsWithMarker hmarked, by decide, by decide⟩

end Standin
