/-
Tokens stand in the text.

The lexer reads a text from left to right, and whatever it reads becomes a token or lies between
two of them: a blank, a comment, the end of a line that is not the end of a statement.  So the
text is spelled by its tokens (`spells_of_tokenize`): each of them, but for the marks of layout,
stands in the text at the place that it says, and only gaps lie between them.  What is read is the
text with its line ends in one form; where that is taken apart, the text itself can be
(`unifyLines_eq_append`).
-/
import Standin.Source.Lexer
import Mathlib.Data.List.TakeWhile
import Mathlib.Tactic.ByContra
import Mathlib.Tactic.SplitIfs

set_option autoImplicit false

namespace Standin.Source

open Lexer

/-! ## The characters of a lexeme -/

namespace Lexer

theorem eq_append_of_shortBody {quote : Char} {cs body rest : List Char}
    (h : shortBody quote cs = some (body, rest)) : cs = body ++ quote :: rest := by
  fun_induction shortBody quote cs generalizing body rest with
  | case1 => cases h
  | case2 c cs ih =>
      obtain ⟨⟨body', rest'⟩, hbody, ⟨⟩⟩ := Option.map_eq_some_iff.mp h
      simp [ih hbody]
  | case3 cs _ =>
      cases h
      rfl
  | case4 => cases h
  | case5 c cs _ _ _ ih =>
      obtain ⟨⟨body', rest'⟩, hbody, ⟨⟩⟩ := Option.map_eq_some_iff.mp h
      simp [ih hbody]

theorem eq_append_of_longBody {quote : Char} {cs body rest : List Char}
    (h : longBody quote cs = some (body, rest)) :
    cs = body ++ quote :: quote :: quote :: rest := by
  fun_induction longBody quote cs generalizing body rest with
  | case1 => cases h
  | case2 c cs ih =>
      obtain ⟨⟨body', rest'⟩, hbody, ⟨⟩⟩ := Option.map_eq_some_iff.mp h
      simp [ih hbody]
  | case3 c cs _ hclosed =>
      obtain ⟨rfl, hquotes⟩ := hclosed
      obtain ⟨tail, rfl⟩ := List.isPrefixOf_iff_prefix.mp hquotes
      cases h
      rfl
  | case4 c cs _ _ ih =>
      obtain ⟨⟨body', rest'⟩, hbody, ⟨⟩⟩ := Option.map_eq_some_iff.mp h
      simp [ih hbody]

theorem eq_append_of_stringHead? {cs letters rest : List Char} {quote : Char}
    (h : stringHead? cs = some (letters, quote, rest)) : cs = letters ++ quote :: rest := by
  unfold stringHead? at h
  repeat' split at h
  all_goals try cases h
  · rfl
  all_goals
    obtain ⟨m, -, ⟨⟩⟩ := Option.map_eq_some_iff.mp h
    rfl

theorem eq_append_of_string? {letters rest used left : List Char} {quote : Char} {l : Lexeme}
    (h : string? letters quote rest = some (l, used, left)) :
    letters ++ quote :: rest = used ++ left := by
  simp only [string?, Option.bind_eq_bind, Option.bind_eq_some_iff] at h
  obtain ⟨m, -, h⟩ := h
  split at h
  · next hquotes =>
    obtain ⟨tail, rfl⟩ := List.isPrefixOf_iff_prefix.mp hquotes
    obtain ⟨⟨body, rest'⟩, hbody, h⟩ := Option.bind_eq_some_iff.mp h
    obtain ⟨piece, -, ⟨⟩⟩ := Option.bind_eq_some_iff.mp h
    have htail := eq_append_of_longBody hbody
    simp_all
  · obtain ⟨⟨body, rest'⟩, hbody, h⟩ := Option.bind_eq_some_iff.mp h
    obtain ⟨piece, -, ⟨⟩⟩ := Option.bind_eq_some_iff.mp h
    simp [eq_append_of_shortBody hbody]

end Lexer

/-! ### Numerals -/

namespace Numeral

/-- That `rest` is left of a text when some characters of its first line are read. -/
def Leaves (cs rest : List Char) : Prop := ∃ used, '\n' ∉ used ∧ cs = used ++ rest

section Leaves

variable {c : Char} {cs rest left : List Char}

theorem Leaves.refl (cs : List Char) : Leaves cs cs := ⟨[], List.not_mem_nil, rfl⟩

theorem Leaves.cons (hc : c ≠ '\n') (h : Leaves cs rest) : Leaves (c :: cs) rest := by
  obtain ⟨used, hused, rfl⟩ := h
  exact ⟨c :: used, by simp [hused, hc.symm], rfl⟩

theorem Leaves.trans (h : Leaves cs rest) (h' : Leaves rest left) : Leaves cs left := by
  obtain ⟨used, hused, rfl⟩ := h
  obtain ⟨used', hused', rfl⟩ := h'
  exact ⟨used ++ used', by simp [hused, hused'], (List.append_assoc _ _ _).symm⟩

end Leaves

theorem leaves_of_digitRun {isDigit : Char → Bool} {cs ds rest : List Char}
    (hline : isDigit '\n' = false) (h : digitRun isDigit cs = some (ds, rest)) :
    Leaves cs rest := by
  fun_induction digitRun isDigit cs generalizing ds rest with
  | case1 =>
      cases h
      exact .refl _
  | case2 c cs hc ih =>
      obtain ⟨⟨ds', rest'⟩, hds, ⟨⟩⟩ := Option.map_eq_some_iff.mp h
      have hne : c ≠ '\n' := by
        rintro rfl
        simp [hline] at hc
      exact (ih hds).cons hne
  | case3 d tail _ _ ih => exact (ih h).cons (by decide)
  | case4 => cases h
  | case5 => cases h
  | case6 =>
      cases h
      exact .refl _

theorem leaves_of_digitRun₁ {isDigit : Char → Bool} {cs ds rest : List Char}
    (hline : isDigit '\n' = false) (h : digitRun₁ isDigit cs = some (ds, rest)) :
    Leaves cs rest := by
  unfold digitRun₁ at h
  split at h
  · cases h
  · exact leaves_of_digitRun hline h

theorem leaves_of_based {base : Nat} {isDigit : Char → Bool} {cs rest : List Char} {v : Literal}
    (hline : isDigit '\n' = false) (h : based base isDigit cs = some (v, rest)) :
    Leaves cs rest := by
  simp only [based, Option.bind_eq_bind, Option.bind_eq_some_iff] at h
  obtain ⟨⟨ds, rest'⟩, hds, h⟩ := h
  repeat' split at h
  all_goals cases h
  exact leaves_of_digitRun₁ hline hds

theorem leaves_of_exponent {cs rest : List Char} {e : Option Int}
    (h : exponent cs = some (e, rest)) : Leaves cs rest := by
  have hdigits : Char.isDigit '\n' = false := by decide
  unfold exponent at h
  split at h
  · cases h
    exact .refl _
  · next c tail =>
    split at h
    · next hletter =>
      have hc : c ≠ '\n' := by obtain rfl | rfl := hletter <;> decide
      split at h
      · cases h
      · next s tail' =>
        split at h
        · next hsign =>
          have hs : s ≠ '\n' := by obtain rfl | rfl := hsign <;> decide
          obtain ⟨⟨ds, rest'⟩, hds, ⟨⟩⟩ := Option.bind_eq_some_iff.mp h
          exact ((leaves_of_digitRun₁ hdigits hds).cons hs).cons hc
        · split at h
          · obtain ⟨⟨ds, rest'⟩, hds, ⟨⟩⟩ := Option.bind_eq_some_iff.mp h
            exact (leaves_of_digitRun₁ hdigits hds).cons hc
          · split at h <;> cases h
            exact .refl _
    · cases h
      exact .refl _

theorem leaves_of_plain {whole : List Char} {fraction : Option (List Char)} {e : Option Int}
    {real : Number.Binary64} {cs rest : List Char} {v : Literal}
    (h : finish.plain whole fraction e real cs = some (v, rest)) : Leaves cs rest := by
  unfold finish.plain at h
  repeat' split at h
  all_goals try cases h
  all_goals exact .refl _

theorem leaves_of_finish {whole : List Char} {fraction : Option (List Char)} {e : Option Int}
    {cs rest : List Char} {v : Literal} (h : finish whole fraction e cs = some (v, rest)) :
    Leaves cs rest := by
  unfold finish at h
  dsimp only at h
  split at h
  · exact leaves_of_plain h
  · next c tail =>
    split at h
    · next hletter =>
      have hc : c ≠ '\n' := by obtain rfl | rfl := hletter <;> decide
      split at h <;> cases h
      exact (Leaves.refl _).cons hc
    · exact leaves_of_plain h

/-- The exponent and the letter at the end are read from one line. -/
theorem leaves_of_ending {whole : List Char} {fraction : Option (List Char)} {cs rest : List Char}
    {v : Literal}
    (h : (exponent cs).bind (fun x => finish whole fraction x.1 x.2) = some (v, rest)) :
    Leaves cs rest := by
  obtain ⟨⟨e, rest'⟩, he, h⟩ := Option.bind_eq_some_iff.mp h
  exact (leaves_of_exponent he).trans (leaves_of_finish h)

/-- So is all that comes after the point. -/
theorem leaves_of_afterPoint {whole cs rest : List Char} {v : Literal}
    (h : afterWhole whole ('.' :: cs) = some (v, rest)) : Leaves cs rest := by
  unfold afterWhole at h
  split at h
  · next tail heq =>
    cases heq
    dsimp only at h
    split at h
    · obtain ⟨⟨ds, left⟩, hds, h⟩ := Option.bind_eq_some_iff.mp h
      exact (leaves_of_digitRun (by decide) hds).trans (leaves_of_ending h)
    · exact leaves_of_ending h
  · next hpoint => exact absurd rfl (hpoint cs)

theorem leaves_of_afterWhole {whole cs rest : List Char} {v : Literal}
    (h : afterWhole whole cs = some (v, rest)) : Leaves cs rest := by
  by_cases hpoint : ∃ tail, cs = '.' :: tail
  · obtain ⟨tail, rfl⟩ := hpoint
    exact (leaves_of_afterPoint h).cons (by decide)
  · unfold afterWhole at h
    split at h
    · exact absurd ⟨_, rfl⟩ hpoint
    · exact leaves_of_ending h

/-- A numeral is read from one line. -/
theorem leaves_of_read {cs rest : List Char} {v : Literal} (h : read cs = some (v, rest)) :
    Leaves cs rest := by
  unfold read at h
  split at h
  case h_7 => exact leaves_of_afterWhole h
  case h_8 =>
    obtain ⟨⟨ds, rest'⟩, hds, h⟩ := Option.bind_eq_some_iff.mp h
    exact (leaves_of_digitRun₁ (by decide) hds).trans (leaves_of_afterWhole h)
  all_goals exact ((leaves_of_based (by decide) h).cons (by decide)).cons (by decide)

end Numeral

namespace Lexer

theorem prefix_of_atHead? {cs spelling : List Char} {s : Sign}
    (h : Sign.atHead? cs = some (spelling, s)) : spelling <+: cs := by
  unfold Sign.atHead? at h
  split at h
  · cases h
  · have hprefix := List.find?_some h
    exact List.isPrefixOf_iff_prefix.mp hprefix

/-- The characters of a lexeme and what is left are the text. -/
theorem eq_append_of_lexeme? {cs used rest : List Char} {l : Lexeme}
    (h : lexeme? cs = some (l, used, rest)) : cs = used ++ rest := by
  unfold lexeme? at h
  split at h
  · next letters quote tail hhead =>
    rw [eq_append_of_stringHead? hhead, eq_append_of_string? h]
  · split at h
    · cases h
    · next c tail =>
      split at h
      · obtain ⟨l', -, ⟨⟩⟩ := Option.map_eq_some_iff.mp h
        exact (List.takeWhile_append_dropWhile).symm
      · split at h
        · obtain ⟨⟨v, rest'⟩, hread, ⟨⟩⟩ := Option.map_eq_some_iff.mp h
          obtain ⟨used, -, hused⟩ := Numeral.leaves_of_read hread
          simp [hused]
        · obtain ⟨⟨spelling, s⟩, hsign, ⟨⟩⟩ := Option.map_eq_some_iff.mp h
          exact (List.prefix_iff_eq_append.mp (prefix_of_atHead? hsign)).symm

end Lexer

/-! ## Names and signs in the text -/

/-- A lexeme is a string, a word, a number or a sign. -/
theorem lexeme?_cases {cs used rest : List Char} {l : Lexeme}
    (h : lexeme? cs = some (l, used, rest)) :
    (∃ piece marked, l = .string piece marked) ∨ (∃ v, l = .number v) ∨
      (word? used = some l ∧ ∀ c ∈ used, isNameLike c = true) ∨
      ∃ s, l = .sign s ∧ Sign.atHead? cs = some (used, s) := by
  unfold lexeme? at h
  split at h
  · simp only [string?, Option.bind_eq_bind, Option.bind_eq_some_iff] at h
    obtain ⟨m, -, h⟩ := h
    split at h <;>
      obtain ⟨_, -, h⟩ := Option.bind_eq_some_iff.mp h <;>
      obtain ⟨piece, -, ⟨⟩⟩ := Option.bind_eq_some_iff.mp h <;>
      exact .inl ⟨_, _, rfl⟩
  · split at h
    · cases h
    · split_ifs at h
      · obtain ⟨l', hword, ⟨⟩⟩ := Option.map_eq_some_iff.mp h
        exact .inr (.inr (.inl ⟨hword, fun c hc => List.mem_takeWhile_imp hc⟩))
      · obtain ⟨⟨v, rest'⟩, -, ⟨⟩⟩ := Option.map_eq_some_iff.mp h
        exact .inr (.inl ⟨v, rfl⟩)
      · obtain ⟨⟨spelling, s⟩, hsign, ⟨⟩⟩ := Option.map_eq_some_iff.mp h
        exact .inr (.inr (.inr ⟨s, rfl, hsign⟩))

theorem word?_ne_sign {cs : List Char} {s : Sign} : word? cs ≠ some (.sign s) := by
  unfold word?
  split
  · dsimp only
    split <;> simp
  · split <;> simp

theorem atHead?_of_lexeme? {cs used rest : List Char} {s : Sign}
    (h : lexeme? cs = some (.sign s, used, rest)) : Sign.atHead? cs = some (used, s) := by
  obtain ⟨_, _, ⟨⟩⟩ | ⟨_, ⟨⟩⟩ | ⟨hword, -⟩ | ⟨s', ⟨⟩, hsign⟩ := lexeme?_cases h
  · exact absurd hword word?_ne_sign
  · exact hsign

theorem word?_of_lexeme? {cs used rest : List Char} {id : String} {plain : Bool}
    (h : lexeme? cs = some (.name id plain, used, rest)) :
    word? used = some (.name id plain) ∧ ∀ c ∈ used, isNameLike c = true := by
  obtain ⟨_, _, ⟨⟩⟩ | ⟨_, ⟨⟩⟩ | hword | ⟨_, ⟨⟩, -⟩ := lexeme?_cases h
  exact hword

theorem mem_table_of_atHead? {cs used : List Char} {s : Sign}
    (h : Sign.atHead? cs = some (used, s)) : (used, s) ∈ Sign.table := by
  unfold Sign.atHead? at h
  split at h
  · cases h
  · exact List.mem_of_find?_eq_some h

theorem eq_of_atHead?_openParen {cs used : List Char}
    (h : Sign.atHead? cs = some (used, .openParen)) : used = ['('] := by
  have hspelled : ∀ entry ∈ Sign.table, entry.2 = .openParen → entry.1 = ['('] := by decide
  exact hspelled _ (mem_table_of_atHead? h) rfl

/-- The sign of a value or of an annotation stands alone: with an equals sign after it, it would be
another one. -/
theorem eq_of_atHead?_declaring {cs used : List Char} {s : Sign} (hs : s = .equal ∨ s = .colon)
    (h : Sign.atHead? cs = some (used, s)) :
    ∃ c rest, (c = '=' ∨ c = ':') ∧ used = [c] ∧ cs = c :: rest ∧ rest.head? ≠ some '=' := by
  have hspelled : ∀ entry ∈ Sign.table, entry.2 = .equal ∨ entry.2 = .colon →
      ∃ c, (c = '=' ∨ c = ':') ∧ entry.1 = [c] := by
    simp [Sign.table]
  obtain ⟨c, hc, hused⟩ := hspelled _ (mem_table_of_atHead? h) hs
  obtain rfl : used = [c] := hused
  obtain ⟨rest, rfl⟩ := prefix_of_atHead? h
  refine ⟨c, rest, hc, rfl, rfl, fun hhead => ?_⟩
  obtain ⟨tail, rfl⟩ := List.head?_eq_some_iff.mp hhead
  obtain rfl | rfl := hc <;> simp [Sign.atHead?, Sign.table] at h

/-! ## Line ends and places -/

theorem Place.afterAll_append (p : Place) (cs ds : List Char) :
    p.afterAll (cs ++ ds) = (p.afterAll cs).afterAll ds := List.foldl_append

/-- Where the text with unified line ends is taken apart, the text itself can be. -/
theorem unifyLines_eq_append {cs x y : List Char} (h : unifyLines cs = x ++ y) :
    ∃ a b, cs = a ++ b ∧ unifyLines a = x ∧ unifyLines b = y := by
  induction cs using unifyLines.induct generalizing x with
  | case1 cs ih =>
      cases x with
      | nil => exact ⟨[], _, rfl, rfl, h⟩
      | cons d x =>
          obtain ⟨rfl, hcs⟩ := List.cons.inj h
          obtain ⟨a, b, rfl, rfl, rfl⟩ := ih hcs
          exact ⟨'\r' :: '\n' :: a, b, rfl, rfl, rfl⟩
  | case2 cs hpair ih =>
      cases x with
      | nil => exact ⟨[], _, rfl, rfl, h⟩
      | cons d x =>
          rw [unifyLines.eq_2 cs hpair] at h
          obtain ⟨rfl, hcs⟩ := List.cons.inj h
          obtain ⟨a, b, rfl, rfl, rfl⟩ := ih hcs
          -- The carriage return stood alone, and it does so in the shorter text.
          refine ⟨'\r' :: a, b, rfl, unifyLines.eq_2 a fun tail ha => ?_, rfl⟩
          exact hpair (tail ++ b) (by rw [ha]; rfl)
  | case3 c cs hpair hsingle ih =>
      cases x with
      | nil => exact ⟨[], _, rfl, rfl, h⟩
      | cons d x =>
          rw [unifyLines.eq_3 c cs hpair hsingle] at h
          obtain ⟨rfl, hcs⟩ := List.cons.inj h
          obtain ⟨a, b, rfl, rfl, rfl⟩ := ih hcs
          exact ⟨c :: a, b, rfl, unifyLines.eq_3 c a (fun _ hc _ => hsingle hc) hsingle, rfl⟩
  | case4 =>
      obtain ⟨rfl, rfl⟩ := List.append_eq_nil_iff.mp h.symm
      exact ⟨[], [], rfl, rfl, rfl⟩

theorem unifyLines_eq_self {cs : List Char} (h : '\n' ∉ unifyLines cs) : unifyLines cs = cs := by
  fun_induction unifyLines cs with
  | case1 cs ih => simp at h
  | case2 cs hcs ih => simp at h
  | case3 c cs _ _ ih => rw [ih (by simp_all)]
  | case4 => rfl

theorem getLast?_unifyLines (cs : List Char) :
    (unifyLines cs).getLast? = cs.getLast?.map fun c => if c = '\r' then '\n' else c := by
  fun_induction unifyLines cs with
  | case1 cs ih =>
      rw [List.getLast?_cons, List.getLast?_cons, List.getLast?_cons, ih]
      cases cs.getLast? <;> rfl
  | case2 cs hcs ih =>
      rw [List.getLast?_cons, List.getLast?_cons, ih]
      cases cs.getLast? <;> rfl
  | case3 c cs _ hc ih =>
      have hne : c ≠ '\r' := hc
      rw [List.getLast?_cons, List.getLast?_cons, ih]
      cases cs.getLast? <;> simp [hne]
  | case4 => rfl

theorem closeLastLine_eq_append {cs a b : List Char} {c : Char} (hc : c ≠ '\n')
    (h : closeLastLine cs = a ++ c :: b) :
    ∃ b', cs = a ++ c :: b' ∧ (b = b' ∨ b = b' ++ ['\n']) := by
  unfold closeLastLine at h
  split at h
  · exact ⟨b, h, .inl rfl⟩
  -- The line end that was added is the last character, which `c` is not.
  · obtain rfl | ⟨b', d, rfl⟩ := List.eq_nil_or_concat b
    · obtain ⟨-, hlast⟩ := List.append_inj' h rfl
      simp [hc.symm] at hlast
    · have h' : cs ++ ['\n'] = (a ++ c :: b') ++ [d] := by simp [h]
      obtain ⟨rfl, hlast⟩ := List.append_inj' h' rfl
      exact ⟨b', rfl, .inr (by rw [List.concat_eq_append, hlast])⟩

/-- A place at the start of a line comes after the end of one. -/
theorem getLast?_of_col_eq_zero {cs : List Char} (h : (Place.afterAll ⟨1, 0⟩ cs).col = 0) :
    ∀ c ∈ cs.getLast?, c = '\n' := by
  obtain rfl | ⟨before, d, rfl⟩ := List.eq_nil_or_concat cs
  · simp
  · intro c hc
    obtain rfl : d = c := by simpa using hc
    rw [List.concat_eq_append, Place.afterAll_append] at h
    by_contra hline
    have hsize := d.utf8Size_pos
    simp [Place.afterAll, Place.after, hline] at h
    omega

/-! ## Texts spelled by tokens -/

/-- What may lie between two tokens: blanks, ends of lines, lines that are continued, comments. -/
inductive Gap : List Char → Prop
  | nil : Gap []
  | blank {c : Char} {g : List Char} (h : isSeparator c = true) (hg : Gap g) : Gap (c :: g)
  | lineEnd {g : List Char} (hg : Gap g) : Gap ('\n' :: g)
  | continued {g : List Char} (hg : Gap g) : Gap ('\\' :: '\n' :: g)
  | comment {text g : List Char} (h : '\n' ∉ text) (hg : Gap g) : Gap ('#' :: text ++ g)

theorem Gap.append {g g' : List Char} (h : Gap g) (h' : Gap g') : Gap (g ++ g') := by
  induction h with
  | nil => exact h'
  | blank hc _ ih => exact .blank hc ih
  | lineEnd _ ih => exact .lineEnd ih
  | continued _ ih => exact .continued ih
  | comment htext _ ih =>
      rw [List.append_assoc]
      exact .comment htext ih

/-- That the tokens stand in the text that begins at `p`, one after another, with only gaps between
them. -/
inductive Spells : Place → List Char → List Token → Prop
  | done {p : Place} {g : List Char} (hg : Gap g) : Spells p g []
  | gap {p : Place} {g cs : List Char} {ts : List Token} (hg : Gap g)
    (hts : Spells (p.afterAll g) cs ts) : Spells p (g ++ cs) ts
  | layout {p : Place} {cs : List Char} {t : Token} {ts : List Token} (ht : t.isLayout = true)
    (hspan : t.span = ⟨p, p⟩) (hts : Spells p cs ts) : Spells p cs (t :: ts)
  | lexeme {p : Place} {cs used rest : List Char} {t : Token} {ts : List Token}
    (ht : lexeme? cs = some (t.lexeme, used, rest)) (hspan : t.span = ⟨p, p.afterAll used⟩)
    (hts : Spells (p.afterAll used) rest ts) : Spells p cs (t :: ts)

namespace Spells

/-- Tokens further on stand further on in the text. -/
theorem drop {p : Place} {cs : List Char} {before ts : List Token}
    (h : Spells p cs (before ++ ts)) :
    ∃ consumed rest, cs = consumed ++ rest ∧ Spells (p.afterAll consumed) rest ts := by
  -- The induction is on how the text is spelled; before a gap no token has gone yet.
  generalize hall : before ++ ts = all at h
  induction h generalizing before with
  | done hg =>
      obtain ⟨-, rfl⟩ := List.append_eq_nil_iff.mp hall
      exact ⟨[], _, rfl, .done hg⟩
  | @gap p g cs all hg hts ih =>
      obtain ⟨consumed, rest, rfl, hrest⟩ := ih hall
      refine ⟨g ++ consumed, rest, by simp, ?_⟩
      rwa [Place.afterAll_append]
  | @layout p cs t all ht hspan hts ih =>
      cases before with
      | nil =>
          obtain rfl : ts = t :: all := hall
          exact ⟨[], cs, rfl, .layout ht hspan hts⟩
      | cons t' before => exact ih (List.cons.inj hall).2
  | @lexeme p cs used rest t all ht hspan hts ih =>
      cases before with
      | nil =>
          obtain rfl : ts = t :: all := hall
          exact ⟨[], cs, rfl, .lexeme ht hspan hts⟩
      | cons t' before =>
          obtain ⟨consumed, left, rfl, hleft⟩ := ih (List.cons.inj hall).2
          refine ⟨used ++ consumed, left, by simp [eq_append_of_lexeme? ht], ?_⟩
          rwa [Place.afterAll_append]

/-- A token that is no mark of layout stands after a gap, and is read there. -/
theorem head {p : Place} {cs : List Char} {t : Token} {ts : List Token} (h : Spells p cs (t :: ts))
    (ht : t.isLayout = false) :
    ∃ g used rest, Gap g ∧ cs = g ++ (used ++ rest) ∧
      lexeme? (used ++ rest) = some (t.lexeme, used, rest) ∧
      t.span = ⟨p.afterAll g, (p.afterAll g).afterAll used⟩ ∧
      Spells ((p.afterAll g).afterAll used) rest ts := by
  generalize hall : t :: ts = all at h
  induction h with
  | done hg => cases hall
  | @gap p g cs all hg hts ih =>
      obtain ⟨g', used, rest, hg', rfl, hlexeme, hspan, hrest⟩ := ih hall
      refine ⟨g ++ g', used, rest, hg.append hg', by simp, hlexeme, ?_, ?_⟩ <;>
        rwa [Place.afterAll_append]
  | layout ht' =>
      cases hall
      simp [ht'] at ht
  | @lexeme p cs used rest t' all ht' hspan hts =>
      cases hall
      obtain rfl := eq_append_of_lexeme? ht'
      exact ⟨[], used, rest, .nil, rfl, ht', by simp [hspan, Place.afterAll], hts⟩

end Spells

/-! ## What the lexer reads is spelled -/

namespace Lexer

/-- That the second state comes from the first one by reading on: the tokens that were added, with
any that are still to come, are spelled by the text that the first one had left. -/
def State.Leads (s s' : State) : Prop :=
  ∃ added, s'.tokens = added.reverse ++ s.tokens ∧
    ∀ ts, Spells s'.place s'.rest ts → Spells s.place s.rest (added ++ ts)

namespace State

variable {s s' s'' : State}

theorem Leads.refl (s : State) : s.Leads s := ⟨[], rfl, fun _ h => h⟩

theorem Leads.trans (h : s.Leads s') (h' : s'.Leads s'') : s.Leads s'' := by
  obtain ⟨added, htokens, hspells⟩ := h
  obtain ⟨added', htokens', hspells'⟩ := h'
  refine ⟨added ++ added', by simp [htokens', htokens], fun ts hts => ?_⟩
  rw [List.append_assoc]
  exact hspells _ (hspells' ts hts)

/-- Only what is read, its place and the tokens matter. -/
theorem Leads.of_gap {g : List Char} (hg : Gap g) (hrest : s.rest = g ++ s'.rest)
    (hplace : s'.place = s.place.afterAll g) (htokens : s'.tokens = s.tokens) : s.Leads s' := by
  refine ⟨[], htokens, fun ts hts => ?_⟩
  rw [hplace] at hts
  rw [hrest]
  exact .gap hg hts

theorem Leads.of_eq (hrest : s'.rest = s.rest) (hplace : s'.place = s.place)
    (htokens : s'.tokens = s.tokens) : s.Leads s' :=
  .of_gap .nil hrest.symm hplace htokens

theorem leads_mark {l : Lexeme} (h : Token.isLayout ⟨l, ⟨s.place, s.place⟩⟩ = true) :
    s.Leads (s.mark l) :=
  ⟨[_], rfl, fun _ hts => .layout h rfl hts⟩

theorem leads_closeLevels {d : Depth} {levels : List Depth}
    (h : s.closeLevels d levels = some s') : s.Leads s' := by
  fun_induction closeLevels s d levels with
  | case1 => cases h
  | case2 s =>
      cases h
      exact .of_eq rfl rfl rfl
  | case3 => cases h
  | case4 s top below more _ ih => exact (leads_mark rfl).trans (ih h)
  | case5 s below more _ =>
      cases h
      exact .of_eq rfl rfl rfl
  | case6 => cases h

/-- An indentation is a gap. -/
theorem gap_of_indentation {d d' : Depth} {fixed fixed' : Nat} {p p' : Place} {cs rest : List Char}
    (h : indentation d fixed p cs = some (d', fixed', p', rest)) :
    ∃ g, Gap g ∧ cs = g ++ rest ∧ p' = p.afterAll g := by
  fun_induction indentation d fixed p cs with
  | case1 d fixed p cs ih | case2 d fixed p cs ih | case3 fixed p cs d ih =>
      obtain ⟨g, hg, rfl, rfl⟩ := ih h
      exact ⟨_ :: g, .blank rfl hg, rfl, rfl⟩
  | case4 d fixed p c cs ih =>
      obtain ⟨g, hg, hcs, rfl⟩ := ih h
      exact ⟨'\\' :: '\n' :: g, .continued hg, by simp [hcs], rfl⟩
  | case5 => cases h
  | case6 =>
      cases h
      exact ⟨[], .nil, rfl, rfl⟩

theorem leads_startLine (h : s.startLine = some s') : s.Leads s' := by
  simp only [startLine, Option.bind_eq_bind, Option.bind_eq_some_iff] at h
  obtain ⟨⟨d, fixed, place, rest⟩, hindent, h⟩ := h
  obtain ⟨g, hg, hrest, hplace⟩ := gap_of_indentation hindent
  have hsettled (blank : Bool) :
      s.Leads { s with rest := rest, place := place, atStart := false, blank := blank } :=
    .of_gap hg hrest hplace rfl
  dsimp only at h
  generalize (if fixed = 0 then d else ⟨fixed, fixed⟩ : Depth) = d' at h
  split_ifs at h
  case pos | pos =>
    cases h
    exact hsettled _
  case neg =>
    cases h
    exact (hsettled _).trans ((leads_mark rfl).trans (.of_eq rfl rfl rfl))
  case neg => exact (hsettled _).trans (leads_closeLevels h)

/-- A comment is a gap. -/
theorem gap_takeWhile (cs : List Char) : Gap ('#' :: cs.takeWhile (· != '\n')) := by
  have hline : '\n' ∉ cs.takeWhile (· != '\n') := fun h => by
    simpa using List.all_eq_true.mp List.all_takeWhile _ h
  simpa using Gap.comment hline .nil

/-- A step reads a gap, a token, or settles the start of a line. -/
theorem leads_step (h : s.step = some s') : s.Leads s' := by
  unfold step at h
  split at h
  · exact leads_startLine h
  · split at h
    · cases h
      exact .refl s
    · next c rest hrest =>
      split_ifs at h with hblank hcomment hline hended hslash
      · cases h
        exact .of_gap (.blank hblank .nil) hrest rfl rfl
      · subst hcomment
        cases h
        refine .of_gap (gap_takeWhile rest) ?_ ?_ rfl <;> simp [hrest]
      · subst hline
        cases h
        exact .of_gap (.lineEnd .nil) hrest rfl rfl
      · subst hline
        cases h
        -- The token of the line's end stands before the character that ends it.
        refine ⟨[_], rfl, fun ts hts => .layout rfl rfl ?_⟩
        rw [hrest]
        exact .gap (.lineEnd .nil) hts
      · subst hslash
        split at h
        · cases h
          exact .of_gap (.continued .nil) hrest rfl rfl
        · cases h
      · simp only [Option.bind_eq_bind, Option.bind_eq_some_iff] at h
        obtain ⟨⟨l, used, left⟩, hlexeme, brackets, -, ⟨⟩⟩ := h
        -- Any other character begins a lexeme, and what it takes is spelled by it.
        exact ⟨[_], rfl, fun ts hts => .lexeme hlexeme rfl hts⟩

theorem leads_dedents (levels : List Depth) (s : State) :
    s.Leads (levels.foldl (fun s _ => s.mark .dedent) s) := by
  induction levels generalizing s with
  | nil => exact .refl s
  | cons d levels ih => exact (leads_mark rfl).trans (ih _)

theorem rest_dedents (levels : List Depth) (s : State) :
    (levels.foldl (fun s _ => s.mark .dedent) s).rest = s.rest := by
  induction levels generalizing s with
  | nil => rfl
  | cons d levels ih => exact ih _

/-- At the end of the text the levels that are open are closed, where they are. -/
theorem spells_of_finish {ts : List Token} (hrest : s.rest = []) (h : s.finish = some ts) :
    ∃ added, ts = s.tokens.reverse ++ added ∧ Spells s.place s.rest added := by
  unfold finish at h
  split_ifs at h
  cases h
  obtain ⟨added, htokens, hspells⟩ :=
    (leads_dedents (s.levels.drop 1) s).trans (leads_mark (l := .finish) rfl)
  refine ⟨added, by rw [htokens]; simp, ?_⟩
  -- Nothing is left of the text, so that the marks stand at its end.
  have hleft := (rest_dedents (s.levels.drop 1) s).trans hrest
  simpa using hspells [] (.done (by rw [mark, hleft]; exact .nil))

/-- Whatever is read from a state on is spelled by what is left there. -/
theorem spells_of_run {fuel : Nat} {ts : List Token} (h : s.run fuel = some ts) :
    ∃ added, ts = s.tokens.reverse ++ added ∧ Spells s.place s.rest added := by
  induction fuel generalizing s with
  | zero => cases h
  | succ fuel ih =>
      unfold run at h
      split at h
      · next hdone => exact spells_of_finish (by simp_all) h
      · split at h
        · cases h
        · next s' hstep =>
          obtain ⟨added, htokens, hspells⟩ := leads_step hstep
          obtain ⟨more, rfl, hmore⟩ := ih h
          exact ⟨added ++ more, by simp [htokens], hspells more hmore⟩

end State

end Lexer

/-- **A text is spelled by its tokens.** -/
theorem spells_of_tokenize {p : Place} {cs : List Char} {ts : List Token}
    (h : tokenize p cs = some ts) : Spells p cs ts := by
  obtain ⟨added, hadded, hspells⟩ := Lexer.State.spells_of_run h
  rw [hadded]
  exact hspells

end Standin.Source
