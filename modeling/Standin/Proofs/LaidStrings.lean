/-
String literals are laid out.

The expressions in a literal with replacement fields are read each from its own text, at the place
where that stands in the literal.  So they are laid out one after another, field by field and format
by format, between the beginning of the literal and its end (`laid_strings`), if the expressions are
that are read from such texts.
-/
import Standin.Proofs.Running

set_option autoImplicit false

namespace Standin.Source

open Node

/-! ## What is left of the characters of a literal -/

namespace Field

theorem suffix_of_afterNameMark (cs : List Char) : (afterNameMark cs).2 <:+ cs := by
  unfold afterNameMark
  split
  · next rest =>
    dsimp only
    split
    · next close rest' hrest =>
      have h := List.dropWhile_suffix (l := rest) (· != '\x7d')
      rw [hrest] at h
      exact ((List.suffix_cons _ _).trans h).trans (List.suffix_cons _ _)
    · exact List.nil_suffix
  · exact List.suffix_cons _ _
  · exact List.suffix_rfl

/-- At a brace the text is left as it is, or behind the second one of two. -/
theorem suffix_of_braceEnding {inFormat : Bool} {brace : Char}
    {before left stretch rest : List Char} {ending : Ending}
    (h : (braceEnding inFormat brace left).map (fun e =>
      if e = .doubled then (before ++ [brace], e, left.drop 1)
      else (before, e, brace :: left)) = some (stretch, ending, rest)) :
    rest <:+ brace :: left ∧ (ending = .opened → rest ≠ []) := by
  obtain ⟨e, -, h⟩ := Option.map_eq_some_iff.mp h
  split_ifs at h with he <;> cases h
  · refine ⟨?_, fun hopened => absurd (he.symm.trans hopened) nofun⟩
    exact (List.drop_suffix 1 left).trans (List.suffix_cons _ _)
  · exact ⟨List.suffix_rfl, fun _ => List.cons_ne_nil _ _⟩

/-- A literal stretch is read from the front of a text, and leaves the brace of a field there. -/
theorem suffix_of_literal {raw inFormat : Bool} {fuel : Nat} {cs stretch rest : List Char}
    {ending : Ending} (h : literal raw inFormat fuel cs = some (stretch, ending, rest)) :
    rest <:+ cs ∧ (ending = .opened → rest ≠ []) := by
  induction fuel generalizing cs stretch rest with
  | zero => cases h
  | succ fuel ih =>
      cases cs with
      | nil =>
          cases h
          exact ⟨List.suffix_rfl, nofun⟩
      | cons c cs =>
          -- What has been read is put in front of the rest of the stretch.
          have hmore {read left : List Char} (hleft : left <:+ cs)
              (h : (literal raw inFormat fuel left).map
                (fun x => (read ++ x.1, x.2.1, x.2.2)) = some (stretch, ending, rest)) :
              rest <:+ c :: cs ∧ (ending = .opened → rest ≠ []) := by
            obtain ⟨⟨more, e, rest'⟩, hmore, ⟨⟩⟩ := Option.map_eq_some_iff.mp h
            obtain ⟨hrest, hopened⟩ := ih hmore
            exact ⟨(hrest.trans hleft).trans (List.suffix_cons _ _), hopened⟩
          rw [literal.eq_def] at h
          dsimp only at h
          split_ifs at h
          · exact suffix_of_braceEnding h
          · split at h
            · cases h
              exact ⟨List.nil_suffix, nofun⟩
            · split_ifs at h
              · obtain ⟨hrest, hopened⟩ := suffix_of_braceEnding h
                exact ⟨hrest.trans (List.suffix_cons _ _), hopened⟩
              · exact hmore ((suffix_of_afterNameMark _).trans (List.suffix_cons _ _)) h
              · exact hmore (List.suffix_cons _ _) h
          · exact hmore List.suffix_rfl h

/-- The expression of a field and what follows it are the text: each branch reads one character, or
the three quotes of a long literal. -/
theorem eq_append_of_expression {brackets : List Char} {inside : Option Quoting}
    {cs text after : List Char} (h : expression brackets inside cs = some (text, after)) :
    cs = text ++ after := by
  fun_induction expression brackets inside cs generalizing text after
  all_goals try cases h
  all_goals try obtain ⟨⟨e, r⟩, he, ⟨⟩⟩ := Option.map_eq_some_iff.mp h
  all_goals grind

theorem suffix_of_echoed (expr cs : List Char) : (echoed expr cs).2 <:+ cs := by
  unfold echoed
  split
  · exact (List.dropWhile_suffix _).trans (List.suffix_cons _ _)
  · exact List.suffix_rfl

/-- The sign and the letter of a conversion are read from the front of a text, if they are there. -/
theorem suffix_of_suffix {expr cs rest : List Char} {s : Suffix}
    (h : suffix expr cs = some (s, rest)) : rest <:+ cs := by
  have hechoed := suffix_of_echoed expr cs
  rw [suffix.eq_def] at h
  dsimp only at h
  split at h
  · next letter left hleft =>
    rw [hleft] at hechoed
    obtain ⟨c, -, ⟨⟩⟩ := Option.bind_eq_some_iff.mp h
    exact List.IsSuffix.trans ⟨['!', letter], rfl⟩ hechoed
  · cases h
  · obtain ⟨-, rfl⟩ := Prod.mk.inj (Option.some.inj h)
    exact hechoed

end Field

/-! ## The places of fields -/

namespace Place

variable {p : Place} {cs rest left : List Char}

theorem ofRest_append (p : Place) (before rest : List Char) :
    p.ofRest (before ++ rest) rest = p.afterAll before := by
  rw [ofRest, List.length_append, Nat.add_sub_cancel, List.take_left]

theorem le_ofRest (p : Place) (cs rest : List Char) : p ≤ p.ofRest cs rest := le_afterAll p _

/-- Further on in a text is a later place. -/
theorem ofRest_le (h : left <:+ rest) (hrest : rest <:+ cs) :
    p.ofRest cs rest ≤ p.ofRest cs left := by
  obtain ⟨before, rfl⟩ := hrest
  obtain ⟨between, rfl⟩ := h
  rw [ofRest_append, ← List.append_assoc, ofRest_append, afterAll_append]
  exact le_afterAll _ _

theorem ofRest_ofRest (h : left <:+ rest) (hrest : rest <:+ cs) :
    (p.ofRest cs rest).ofRest rest left = p.ofRest cs left := by
  obtain ⟨before, rfl⟩ := hrest
  obtain ⟨between, rfl⟩ := h
  rw [ofRest_append, ofRest_append, ← List.append_assoc, ofRest_append, afterAll_append]

/-- The text of a field with a bracket at each end reaches no further than the field. -/
theorem beyond_le_ofRest {brace sign : Char} {text between : List Char}
    (hrest : brace :: (text ++ (between ++ sign :: left)) <:+ cs) :
    ((p.ofRest cs (brace :: (text ++ (between ++ sign :: left)))).afterAll ('(' :: text)).beyond ≤
      p.ofRest cs left := by
  have hleft : left <:+ brace :: (text ++ (between ++ sign :: left)) :=
    ⟨brace :: (text ++ (between ++ [sign])), by simp⟩
  rw [← ofRest_ofRest hleft hrest]
  generalize p.ofRest cs (brace :: (text ++ (between ++ sign :: left))) = q
  have hsplit : brace :: (text ++ (between ++ sign :: left)) =
      (brace :: (text ++ (between ++ [sign]))) ++ left := by simp
  rw [hsplit, ofRest_append, afterAll_cons, afterAll_cons, afterAll_append, afterAll_append]
  refine beyond_le_after ((afterAll_mono ?_ text).trans (le_afterAll _ between)) sign
  exact beyond_le_after (le_refl q) brace

end Place

/-! ## Fields one after another -/

/-- That the expressions that are read from the texts of fields are laid out there, as they would be
with a parenthesis in the place of the opening brace and one after the text. -/
def LaysEmbedded (embedded : Place → List Char → Option Expr) : Prop :=
  ∀ p cs e, embedded p cs = some e → (Node.expr e).Laid p (p.afterAll ('(' :: cs)).beyond

/-- The nodes of a part of a literal. -/
def Segment.nodes : Segment → List Node
  | .codes _ => []
  | .field e => [.expr e]

theorem laid_constant {lo hi : Place} (h : lo ≤ hi) (v : Literal) (marked : Bool) (span : Span) :
    (Node.expr (.constant v marked span)).Laid lo hi := .of_chain rfl rfl (.nil h)

/-- Joining leaves the fields where they are. -/
theorem laidAll_join {lo hi : Place} {marked : Bool} {span : Span} {before : List Nat}
    {segments : List Segment} (h : LaidAll lo hi (segments.flatMap Segment.nodes)) :
    LaidAll lo hi ((Segment.join marked span before segments).map .expr) := by
  fun_induction Segment.join marked span before segments generalizing lo with
  | case1 => exact h
  | case2 before => exact .single (laid_constant h.le _ _ _)
  | case3 before more rest ih => exact ih h
  | case4 e rest ih =>
      obtain _ | ⟨he, hrest⟩ := h
      exact .cons he (ih hrest)
  | case5 before e rest _ ih =>
      obtain _ | ⟨he, hrest⟩ := h
      exact .cons (laid_constant (le_refl _) _ _ _) (.cons he (ih hrest))

theorem laid_joined {lo hi : Place} {marked : Bool} {span : Span} {segments : List Segment}
    (h : LaidAll lo hi (segments.flatMap Segment.nodes)) :
    (Node.expr (.joined (Segment.join marked span [] segments) span)).Laid lo hi :=
  .of_chain rfl rfl (laidAll_join h)

/-- What is read of the characters of a literal, part by part, and what is left of them.  How deep
formats may be nested, and which characters end a part, does not matter here. -/
inductive ReadsFields (embedded : Place → List Char → Option Expr) (span : Span) :
    Place → List Char → List Segment → List Char → Prop where
  /-- A stretch with nothing after it. -/
  | last {place : Place} {cs rest : List Char} (codes : List Nat) (hrest : rest <:+ cs) :
    ReadsFields embedded span place cs [.codes codes] rest
  /-- A stretch up to a brace that stands for itself, and more. -/
  | stretch {place : Place} {cs left rest : List Char} {more : List Segment} (codes : List Nat)
      (hleft : left <:+ cs)
      (hmore : ReadsFields embedded span (place.ofRest cs left) left more rest) :
    ReadsFields embedded span place cs (.codes codes :: more) rest
  /-- A stretch and a field without a format, and more. -/
  | plain {place : Place} {cs text between left rest : List Char} {brace : Char} {value : Expr}
      {more : List Segment} (codes echo : List Nat) (conversion : Option Conversion)
      (hopened : brace :: (text ++ (between ++ '\x7d' :: left)) <:+ cs)
      (hvalue : embedded (place.ofRest cs (brace :: (text ++ (between ++ '\x7d' :: left)))) text =
        some value)
      (hmore : ReadsFields embedded span (place.ofRest cs left) left more rest) :
    ReadsFields embedded span place cs
      (.codes codes :: .codes echo :: .field (.formatted value conversion none span) :: more) rest
  /-- A stretch and a field with a format, which is read up to the brace that closes the field, and
  more. -/
  | formatted {place : Place} {cs text between format left rest : List Char} {brace : Char}
      {value : Expr} {segments more : List Segment} (codes echo : List Nat)
      (conversion : Option Conversion)
      (hopened : brace :: (text ++ (between ++ ':' :: format)) <:+ cs)
      (hvalue : embedded (place.ofRest cs (brace :: (text ++ (between ++ ':' :: format)))) text =
        some value)
      (hformat : ReadsFields embedded span (place.ofRest cs format) format segments
        ('\x7d' :: left))
      (hmore : ReadsFields embedded span (place.ofRest cs left) left more rest) :
    ReadsFields embedded span place cs
      (.codes codes :: .codes echo :: .field (.formatted value conversion
        (some (.joined (Segment.join false span [] segments) span)) span) :: more) rest

/-- One round reads one part, and the rounds after it what comes next. -/
theorem readsFields_of_fieldSegments {embedded : Place → List Char → Option Expr}
    {raw inFormat : Bool} {span : Span} {fuel levels : Nat} {place : Place} {cs rest : List Char}
    {segments : List Segment}
    (h : fieldSegments embedded raw span fuel levels inFormat place cs = some (segments, rest)) :
    ReadsFields embedded span place cs segments rest := by
  induction fuel generalizing levels inFormat place cs rest segments with
  | zero => cases h
  | succ fuel ih =>
      rw [fieldSegments] at h
      obtain ⟨⟨stretch, ending, rest₁⟩, hliteral, h⟩ := Option.bind_eq_some_iff.mp h
      obtain ⟨codes, -, h⟩ := Option.bind_eq_some_iff.mp h
      obtain ⟨hrest₁, hopened⟩ := Field.suffix_of_literal hliteral
      cases ending with
      | finished =>
          cases h
          exact .last codes List.nil_suffix
      | closed =>
          cases h
          exact .last codes hrest₁
      | doubled =>
          obtain ⟨⟨more, rest₂⟩, hmore, ⟨⟩⟩ := Option.bind_eq_some_iff.mp h
          exact .stretch codes hrest₁ (ih hmore)
      | opened =>
          obtain ⟨brace, rest₁, rfl⟩ := List.exists_cons_of_ne_nil (hopened rfl)
          dsimp only at h
          split_ifs at h
          obtain ⟨⟨text, afterText⟩, htext, h⟩ := Option.bind_eq_some_iff.mp h
          obtain rfl := Field.eq_append_of_expression htext
          dsimp only at h
          split_ifs at h
          obtain ⟨value, hvalue, h⟩ := Option.bind_eq_some_iff.mp h
          obtain ⟨⟨suffix, afterSuffix⟩, hsuffix, h⟩ := Option.bind_eq_some_iff.mp h
          obtain ⟨⟨spec, afterSpec⟩, hspec, h⟩ := Option.bind_eq_some_iff.mp h
          dsimp only at h
          split at h
          · next left =>
            obtain ⟨⟨more, rest₂⟩, hmore, ⟨⟩⟩ := Option.bind_eq_some_iff.mp h
            obtain ⟨between, rfl⟩ := Field.suffix_of_suffix hsuffix
            split at hspec
            · next format hcolon =>
              subst hcolon
              obtain ⟨⟨segments, rest₃⟩, hformat, ⟨⟩⟩ := Option.map_eq_some_iff.mp hspec
              exact .formatted codes _ _ hrest₁ hvalue (ih hformat) (ih hmore)
            · cases hspec
              exact .plain codes _ _ hrest₁ hvalue (ih hmore)
          · cases h

/-- A field that is laid out up to where more is read, and that which is read there. -/
theorem laidAll_field_cons {place : Place} {cs left rest : List Char} {value : Expr}
    {conversion : Option Conversion} {spec : Option Expr} {span : Span} {more : List Segment}
    {codes echo : List Nat} (hleft : left <:+ cs)
    (hparts : LaidAll place (place.ofRest cs left) (.expr value :: ofExpr? spec))
    (hrest : rest <:+ left)
    (hmore : LaidAll (place.ofRest cs left) ((place.ofRest cs left).ofRest left rest)
      (more.flatMap Segment.nodes)) :
    rest <:+ cs ∧ LaidAll place (place.ofRest cs rest)
      ((.codes codes :: .codes echo :: .field (.formatted value conversion spec span) ::
        more : List Segment).flatMap Segment.nodes) := by
  rw [Place.ofRest_ofRest hrest hleft] at hmore
  exact ⟨hrest.trans hleft, .cons (.of_chain rfl rfl hparts) hmore⟩

/-- The fields of a literal are laid out one after another in the characters that are read. -/
theorem ReadsFields.laidAll {embedded : Place → List Char → Option Expr}
    (hembedded : LaysEmbedded embedded) {span : Span} {place : Place} {cs rest : List Char}
    {segments : List Segment} (h : ReadsFields embedded span place cs segments rest) :
    rest <:+ cs ∧ LaidAll place (place.ofRest cs rest) (segments.flatMap Segment.nodes) := by
  induction h with
  | last codes hrest => exact ⟨hrest, .nil (Place.le_ofRest _ _ _)⟩
  | stretch codes hleft _ ih =>
      obtain ⟨hrest, hlaid⟩ := ih
      rw [Place.ofRest_ofRest hrest hleft] at hlaid
      exact ⟨hrest.trans hleft, hlaid.mono_left (Place.le_ofRest _ _ _)⟩
  | @plain place cs text between left rest brace value more codes echo _ hopened hvalue _ ih =>
      have hlaidValue := (hembedded _ _ _ hvalue).mono (Place.le_ofRest place cs _)
        (Place.beyond_le_ofRest hopened)
      have hleft : left <:+ cs :=
        .trans ⟨brace :: (text ++ (between ++ ['\x7d'])), by simp⟩ hopened
      refine laidAll_field_cons hleft ?_ ih.1 ih.2
      exact .single hlaidValue
  | @formatted place cs text between format left rest brace value segments more codes echo _ hopened
      hvalue _ _ ihFormat ih =>
      have hlaidValue := (hembedded _ _ _ hvalue).mono_left (Place.le_ofRest _ _ _)
      obtain ⟨hclosing, hsegments⟩ := ihFormat
      have hcolon : format <:+ cs :=
        .trans ⟨brace :: (text ++ (between ++ [':'])), by simp⟩ hopened
      have hbrace : left <:+ '\x7d' :: left := List.suffix_cons _ _
      -- The format ends before the brace that closes the field.
      rw [Place.ofRest_ofRest hclosing hcolon] at hsegments
      have hformat := hsegments.mono_right (Place.ofRest_le hbrace (hclosing.trans hcolon))
      refine laidAll_field_cons (hbrace.trans (hclosing.trans hcolon)) ?_ ih.1 ih.2
      exact .pair hlaidValue (Place.beyond_le_ofRest hopened) (laid_joined hformat)

/-! ## Literals side by side -/

/-- What is said of a string literal between two places: its fields are laid out there, whatever
place the whole literal has. -/
def LaysPiece (embedded : Place → List Char → Option Expr) (lo hi : Place)
    (piece : StringPiece × Place) : Prop :=
  lo ≤ hi ∧ ∀ span segments, piece.1.segments embedded span piece.2 = some segments →
    LaidAll lo hi (segments.flatMap Segment.nodes)

/-- The same of a literal that is read with its mark. -/
def LaysToken (embedded : Place → List Char → Option Expr) (lo hi : Place)
    (token : StringPiece × Place × Bool) : Prop :=
  LaysPiece embedded lo hi (token.1, token.2.1)

theorem laysPiece_of_stands {embedded : Place → List Char → Option Expr}
    (hembedded : LaysEmbedded embedded) {t : Token} (ht : t.Stands) {piece : StringPiece}
    {marked : Bool} (hlexeme : t.lexeme = .string piece marked) :
    LaysPiece embedded t.span.start t.span.stop (piece, t.span.start) := by
  refine ⟨ht.le, fun span segments h => ?_⟩
  cases piece with
  | text codes =>
      cases h
      exact .nil ht.le
  | bytes bs => cases h
  | fields raw opening body =>
      obtain ⟨⟨segments, rest⟩, hsegments, rfl⟩ := Option.map_eq_some_iff.mp h
      obtain ⟨hrest, hlaid⟩ := (readsFields_of_fieldSegments hsegments).laidAll hembedded
      refine hlaid.mono (Place.le_iff.mpr (.inr ⟨rfl, Nat.le_add_right _ _⟩)) ?_
      refine le_trans ?_ (ht.body raw opening body marked hlexeme)
      have hend := Place.ofRest_append ⟨t.span.start.line, t.span.start.col + opening⟩ body []
      rw [List.append_nil] at hend
      rw [← hend]
      exact Place.ofRest_le List.nil_suffix hrest

theorem laidAll_mapM {embedded : Place → List Char → Option Expr} {lo hi : Place} {span : Span}
    {pieces : List (StringPiece × Place)} (h : Chain (LaysPiece embedded) lo hi pieces)
    {segments : List (List Segment)}
    (hsegments : pieces.mapM (fun x => x.1.segments embedded span x.2) = some segments) :
    LaidAll lo hi (segments.flatten.flatMap Segment.nodes) := by
  induction h generalizing segments with
  | nil h =>
      cases hsegments
      exact .nil h
  | cons hpiece _ ih =>
      rw [List.mapM_cons] at hsegments
      obtain ⟨first, hfirst, hsegments⟩ := Option.bind_eq_some_iff.mp hsegments
      obtain ⟨others, hothers, ⟨⟩⟩ := Option.bind_eq_some_iff.mp hsegments
      rw [List.flatten_cons, List.flatMap_append]
      exact (hpiece.2 span first hfirst).append (ih hothers)

/-- The value of literals side by side is placed where they stand. -/
theorem placed_literalOfPieces {embedded : Place → List Char → Option Expr} {lo hi : Place}
    {marked : Bool} {span : Span} {pieces : List (StringPiece × Place)}
    (h : Chain (LaysPiece embedded) lo hi pieces) (hlo : lo ≤ span.start) (hlt : span.start < hi)
    {e : Expr} (he : literalOfPieces embedded marked span pieces = some e) :
    (Node.expr e).Placed lo hi := by
  obtain ⟨segments, hsegments, rfl⟩ | ⟨v, m, rfl⟩ := literalOfPieces_cases he
  · exact ⟨laid_joined (laidAll_mapM h hsegments), hlo, hlt⟩
  · exact ⟨laid_constant (hlo.trans hlt.le) _ _ _, hlo, hlt⟩

section Productions

open Standin.Source.Parser

variable {r : Rules} {c : Cursor}

theorem after_stringToken {embedded : Place → List Char → Option Expr}
    (hembedded : LaysEmbedded embedded) : stringToken.After c fun x c' =>
      c.Passes c' ∧ LaysToken embedded c.start c'.last x := by
  refine .of_sound fun hc => .bind (.token fun t rest htokens _ => ?_)
  split
  · next piece marked hlexeme =>
    have hlayout : t.isLayout = false := by rw [Token.isLayout, hlexeme]
    refine .pure ⟨hc.passes_past htokens hlayout, ?_⟩
    rw [Cursor.start_of_tokens htokens, Cursor.last_past hlayout]
    exact laysPiece_of_stands hembedded (hc.stands htokens) hlexeme
  · exact .reject

theorem after_laterToken {embedded : Place → List Char → Option Expr}
    (hembedded : LaysEmbedded embedded) (c : Cursor) : stringToken.After c fun x c' =>
      LaysToken embedded c.last c'.last x := by
  refine .of_sound fun hc => (after_stringToken hembedded).imp fun x c' _ h => ⟨?_, ?_⟩
  · exact hc.last_le_start.trans h.2.1
  · exact fun span segments hsegments => (h.2.2 span segments hsegments).mono_left hc.last_le_start

/-- String literals side by side are placed between the first one and the last one. -/
theorem after_strings (hembedded : LaysEmbedded r.embedded) :
    (strings r).After c fun e c' => (Node.expr e).Placed c.start c'.last := by
  refine .bind (.here (.bind (.bind ?_)))
  refine (after_stringToken hembedded).imp fun first c₁ _ hfirst => .bind ?_
  refine (After.many (R := LaysToken r.embedded)
    (after_laterToken hembedded)).imp fun others c₂ _ hothers => .pure ?_
  have hall := Chain.cons (R := LaysToken r.embedded) hfirst.2
    hothers
  have hle : c₁.last ≤ c₂.last := hothers.le fun hpiece => hpiece.1
  refine .bind (.spanFrom ?_)
  dsimp only
  split
  · next e he =>
    exact .pure (placed_literalOfPieces (.map hall) (le_refl _) (hfirst.1.lt.trans_le hle) he)
  · exact .reject

end Productions

end Standin.Source
