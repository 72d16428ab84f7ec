/-
Which texts opt in.

A pattern is matched by trying, but for all that can be tried the pattern of the marker says
something simple of a line: it begins with the marker's name, blanks, and then the sign of a
value, or an annotation as far as one can be told without reading it (`Trigger.Declares`).  The
longest run of an annotation's characters is the only one that counts, since nothing else can
follow a shorter one.  So a text opts in if one of its lines begins in that way (`optsIn_iff`).
-/
import Standin.Trigger
import Mathlib.Data.List.TakeWhile

set_option autoImplicit false

namespace Standin

open Text (Pattern Spot)

/-! ## Matching a pattern -/

namespace Text.Pattern

variable {p : Char → Bool} {a b : Pattern} {k : Spot → Bool} {before : Option Char}
  {cs : List Char}

theorem getLast?_cons_or (c : Char) (cs : List Char) (before : Option Char) :
    (c :: cs).getLast?.or before = cs.getLast?.or (some c) := by
  rw [List.getLast?_cons]
  cases cs.getLast? <;> rfl

/-- A run takes some characters of its class, and what follows is matched after them. -/
theorem tryRun_eq_true :
    tryRun p k before cs = true ↔ ∃ taken rest, cs = taken ++ rest ∧ (∀ c ∈ taken, p c = true) ∧
      k ⟨taken.getLast?.or before, rest⟩ = true := by
  induction cs generalizing before with
  | nil =>
      constructor
      · intro h
        exact ⟨[], [], rfl, by simp, h⟩
      · rintro ⟨taken, rest, heq, -, h⟩
        obtain ⟨rfl, rfl⟩ := List.append_eq_nil_iff.mp heq.symm
        exact h
  | cons c cs ih =>
      simp only [tryRun, Bool.or_eq_true, Bool.and_eq_true, ih]
      constructor
      -- A run goes on with the next character, or stops before it.
      · rintro (⟨hc, taken, rest, rfl, htaken, h⟩ | h)
        · refine ⟨c :: taken, rest, rfl, List.forall_mem_cons.mpr ⟨hc, htaken⟩, ?_⟩
          rwa [getLast?_cons_or]
        · exact ⟨[], c :: cs, rfl, by simp, h⟩
      · rintro ⟨taken, rest, heq, htaken, h⟩
        cases taken with
        | nil =>
            obtain rfl : c :: cs = rest := heq
            exact .inr h
        | cons d taken =>
            obtain ⟨rfl, rfl⟩ := List.cons.inj heq
            obtain ⟨hc, htaken⟩ := List.forall_mem_cons.mp htaken
            rw [getLast?_cons_or] at h
            exact .inl ⟨hc, taken, rest, rfl, htaken, h⟩

theorem matchThen_one :
    (Pattern.one p).matchThen k ⟨before, cs⟩ = true ↔
      ∃ c rest, cs = c :: rest ∧ p c = true ∧ k ⟨some c, rest⟩ = true := by
  cases cs with
  | nil => simp [matchThen]
  | cons c cs =>
      simp only [matchThen, Bool.and_eq_true, List.cons.injEq]
      constructor
      · exact fun h => ⟨c, cs, ⟨rfl, rfl⟩, h⟩
      · rintro ⟨c, cs, ⟨rfl, rfl⟩, h⟩
        exact h

theorem matchThen_text {c : Char} {text : List Char} :
    (Pattern.text (c :: text)).matchThen k ⟨before, cs⟩ = true ↔
      ∃ rest, cs = c :: text ++ rest ∧ k ⟨(c :: text).getLast?, rest⟩ = true := by
  induction text generalizing c before cs with
  | nil =>
      rw [Pattern.text, matchThen_one]
      constructor
      · rintro ⟨c', rest, rfl, hc, h⟩
        obtain rfl : c' = c := by simpa using hc
        exact ⟨rest, rfl, h⟩
      · rintro ⟨rest, rfl, h⟩
        exact ⟨c, rest, rfl, by simp, h⟩
  | cons d text ih =>
      have hlast : (c :: d :: text).getLast? = (d :: text).getLast? := by simp
      rw [Pattern.text, matchThen, matchThen_one, hlast]
      constructor
      · rintro ⟨c', rest, rfl, hc, h⟩
        obtain rfl : c' = c := by simpa using hc
        obtain ⟨rest, rfl, hk⟩ := ih.mp h
        exact ⟨rest, rfl, hk⟩
      · rintro ⟨rest, rfl, h⟩
        exact ⟨c, _, rfl, by simp, ih.mpr ⟨rest, rfl, h⟩⟩
      · simp

theorem matchThen_run :
    (Pattern.run p).matchThen k ⟨before, cs⟩ = true ↔ ∃ taken rest, cs = taken ++ rest ∧
      (∀ c ∈ taken, p c = true) ∧ k ⟨taken.getLast?.or before, rest⟩ = true := tryRun_eq_true

theorem matchThen_seq :
    (Pattern.seq a b).matchThen k ⟨before, cs⟩ = a.matchThen (b.matchThen k) ⟨before, cs⟩ := rfl

theorem matchThen_notNext :
    (Pattern.notNext p).matchThen k ⟨before, cs⟩ = true ↔
      (∀ c ∈ cs.head?, p c = false) ∧ k ⟨before, cs⟩ = true := by
  cases cs <;> simp [matchThen]

theorem matchThen_lineStart :
    Pattern.lineStart.matchThen k ⟨before, cs⟩ = true ↔
      (∀ c ∈ before, c = '\n') ∧ k ⟨before, cs⟩ = true := by
  cases before <;> simp [matchThen]

theorem matchThen_lineEnd :
    Pattern.lineEnd.matchThen k ⟨before, cs⟩ = true ↔
      (∀ c ∈ cs.head?, c = '\n') ∧ k ⟨before, cs⟩ = true := by
  cases cs <;> simp [matchThen]

theorem searchFrom_eq_true :
    a.searchFrom before cs = true ↔ ∃ consumed rest, cs = consumed ++ rest ∧
      a.matchThen (fun _ => true) ⟨consumed.getLast?.or before, rest⟩ = true := by
  induction cs generalizing before with
  | nil =>
      constructor
      · intro h
        exact ⟨[], [], rfl, h⟩
      · rintro ⟨consumed, rest, heq, h⟩
        obtain ⟨rfl, rfl⟩ := List.append_eq_nil_iff.mp heq.symm
        exact h
  | cons c cs ih =>
      simp only [searchFrom, Bool.or_eq_true, ih]
      constructor
      · rintro (h | ⟨consumed, rest, rfl, h⟩)
        · exact ⟨[], c :: cs, rfl, h⟩
        · exact ⟨c :: consumed, rest, rfl, by rwa [getLast?_cons_or]⟩
      · rintro ⟨consumed, rest, heq, h⟩
        cases consumed with
        | nil =>
            obtain rfl : c :: cs = rest := heq
            exact .inl h
        | cons d consumed =>
            obtain ⟨rfl, rfl⟩ := List.cons.inj heq
            exact .inr ⟨consumed, rest, rfl, by rwa [getLast?_cons_or] at h⟩

/-- A pattern occurs in a text if it matches at some place in it. -/
theorem occursIn_eq_true {s : String} :
    a.occursIn s = true ↔ ∃ consumed rest, s.toList = consumed ++ rest ∧
      a.matchThen (fun _ => true) ⟨consumed.getLast?, rest⟩ = true := by
  simp [occursIn, searchFrom_eq_true]

end Text.Pattern

/-! ## The pattern of the marker -/

namespace Trigger

open Text.Pattern

/-- That a text begins with the sign of a value. -/
def BeginsValue (cs : List Char) : Prop := ∃ rest, cs = '=' :: rest ∧ rest.head? ≠ some '='

/-- That nothing more is declared on the line that the text begins with: the line is over, or only a
comment or another statement is left of it. -/
def EndsLine (cs : List Char) : Prop := ∀ c ∈ cs.head?, c = '\n' ∨ isTail c = true

/-- That a text begins with an annotation, as far as one can be told without reading it: the sign of
one, and the longest run of its characters, after which a value or nothing more is declared. -/
def BeginsHint (cs : List Char) : Prop :=
  ∃ hint rest, cs = ':' :: hint ++ rest ∧ hint ≠ [] ∧ (∀ c ∈ hint, isAnnotationChar c = true) ∧
    (EndsLine rest ∨ BeginsValue rest)

/-- That a text begins with the declaration of the marker: its name, blanks, and a value or an
annotation. -/
def Declares (cs : List Char) : Prop :=
  ∃ blanks rest, cs = markerName.toList ++ (blanks ++ rest) ∧
    (∀ c ∈ blanks, isInlineBlank c = true) ∧ (BeginsValue rest ∨ BeginsHint rest)

/-- What ends the pattern of the marker. -/
def endPattern : Pattern :=
  .all [.run isInlineBlank, .maybe (.seq (.one isTail) (.run onLine)), .lineEnd]

variable {before : Option Char} {cs : List Char}

/-- The rest of a line can always be taken. -/
theorem exists_restOfLine (cs : List Char) :
    ∃ taken rest, cs = taken ++ rest ∧ (∀ c ∈ taken, onLine c = true) ∧
      ∀ c ∈ rest.head?, c = '\n' := by
  refine ⟨cs.takeWhile onLine, cs.dropWhile onLine, List.takeWhile_append_dropWhile.symm,
    fun c hc => List.mem_takeWhile_imp hc, fun c hc => ?_⟩
  have hnot := List.head?_dropWhile_not onLine cs
  simp_all [onLine]

/-- The pattern ends, after some blanks, where nothing more is declared. -/
theorem matchThen_end :
    endPattern.matchThen (fun _ => true) ⟨before, cs⟩ = true ↔
      ∃ blanks rest, cs = blanks ++ rest ∧ (∀ c ∈ blanks, isInlineBlank c = true) ∧
        EndsLine rest := by
  have htail (before : Option Char) (cs : List Char) :
      (Pattern.maybe (.seq (.one isTail) (.run onLine))).matchThen
          (Pattern.lineEnd.matchThen fun _ => true) ⟨before, cs⟩ = true ↔ EndsLine cs := by
    simp only [matchThen_maybe, matchThen_seq, matchThen_one, matchThen_run, matchThen_lineEnd,
      and_true]
    constructor
    · rintro (⟨c, rest, rfl, hc, -⟩ | h)
      · simp [EndsLine, hc]
      · exact fun c hc => .inl (h c hc)
    · intro h
      cases cs with
      | nil => simp
      | cons c cs =>
          obtain hc | hc := h c rfl
          · simp [hc]
          · exact .inl ⟨c, cs, rfl, hc, exists_restOfLine cs⟩
  simp only [endPattern, Pattern.all, matchThen_seq, matchThen_run, htail]

/-- After the sign of a value the pattern matches the rest of the line. -/
theorem matchThen_value :
    valuePattern.matchThen (endPattern.matchThen fun _ => true) ⟨before, cs⟩ = true ↔
      BeginsValue cs := by
  simp only [valuePattern, Pattern.all, matchThen_seq, matchThen_one, matchThen_notNext,
    matchThen_run, matchThen_end, beq_iff_eq, beq_eq_false_iff_ne]
  constructor
  · rintro ⟨c, rest, rfl, rfl, hnext, -⟩
    exact ⟨rest, rfl, fun h => hnext _ h rfl⟩
  · rintro ⟨rest, rfl, hnext⟩
    -- The value may be anything, so the rest of the line is taken for it.
    obtain ⟨taken, left, hrest, htaken, hleft⟩ := exists_restOfLine rest
    refine ⟨'=', rest, rfl, rfl, fun c hc heq => hnext (heq ▸ hc), taken, left, hrest, htaken, ?_⟩
    exact ⟨[], left, rfl, by simp, fun c hc => .inl (hleft c hc)⟩

theorem isAnnotationChar_of_isInlineBlank {c : Char} (h : isInlineBlank c = true) :
    isAnnotationChar c = true := by
  simp only [isInlineBlank, Bool.or_eq_true, beq_iff_eq] at h
  obtain rfl | rfl := h <;> decide

/-- The blanks before the end of an annotation belong to it, so the longest run of its characters
is all that there is to try. -/
theorem matchThen_hint :
    (Pattern.all [.one (· == ':'), .one isAnnotationChar, .run isAnnotationChar,
        .maybe valuePattern]).matchThen (endPattern.matchThen fun _ => true) ⟨before, cs⟩ = true ↔
      BeginsHint cs := by
  simp only [Pattern.all, matchThen_seq, matchThen_one, matchThen_run, matchThen_maybe,
    matchThen_value, matchThen_end, beq_iff_eq]
  constructor
  · rintro ⟨_, _, rfl, rfl, c, _, rfl, hc, taken, rest, rfl, htaken, hafter⟩
    have hhint : ∀ d ∈ c :: taken, isAnnotationChar d = true :=
      List.forall_mem_cons.mpr ⟨hc, htaken⟩
    obtain hvalue | ⟨blanks, rest, rfl, hblanks, hend⟩ := hafter
    · exact ⟨c :: taken, rest, rfl, by simp, hhint, .inr hvalue⟩
    -- The blanks that the end of the pattern has taken are given to the run.
    · refine ⟨c :: taken ++ blanks, rest, by simp, by simp, fun d hd => ?_, .inl hend⟩
      obtain hd | hd := List.mem_append.mp hd
      · exact hhint d hd
      · exact isAnnotationChar_of_isInlineBlank (hblanks d hd)
  · rintro ⟨hint, rest, rfl, hne, hhint, hend⟩
    obtain ⟨c, taken, rfl⟩ := List.exists_cons_of_ne_nil hne
    obtain ⟨hc, htaken⟩ := List.forall_mem_cons.mp hhint
    refine ⟨':', _, rfl, rfl, c, _, rfl, hc, taken, rest, rfl, htaken, ?_⟩
    exact hend.symm.imp id fun hend => ⟨[], rest, rfl, by simp, hend⟩

/-- **The pattern of the marker** matches where a line begins with its declaration. -/
theorem matchThen_marker :
    markerPattern.matchThen (fun _ => true) ⟨before, cs⟩ = true ↔
      (∀ c ∈ before, c = '\n') ∧ Declares cs := by
  have hname : markerName.toList = 'm' :: "ockingbird".toList := by decide
  change (Pattern.seq .lineStart (.seq (.text markerName.toList) (.seq (.run isInlineBlank)
    (.seq (.either (.all [.one (· == ':'), .one isAnnotationChar, .run isAnnotationChar,
      .maybe valuePattern]) valuePattern) endPattern)))).matchThen _ _ = true ↔ _
  rw [hname]
  simp only [matchThen_seq, matchThen_lineStart, matchThen_text, matchThen_run, matchThen_either,
    matchThen_hint, matchThen_value]
  refine and_congr_right fun _ => ?_
  rw [Declares, hname]
  constructor
  · rintro ⟨_, rfl, blanks, rest, rfl, hblanks, hdeclared⟩
    exact ⟨blanks, rest, rfl, hblanks, hdeclared.symm⟩
  · rintro ⟨blanks, rest, rfl, hblanks, hdeclared⟩
    exact ⟨_, rfl, blanks, rest, rfl, hblanks, hdeclared.symm⟩

end Trigger

/-- **A text opts in** exactly if one of its lines begins with the declaration of the marker. -/
theorem optsIn_iff (source : String) :
    optsIn source = true ↔ ∃ before after, source.toList = before ++ after ∧
      (∀ c ∈ before.getLast?, c = '\n') ∧ Trigger.Declares after := by
  simp only [optsIn, Pattern.occursIn_eq_true, Trigger.matchThen_marker]

end Standin
