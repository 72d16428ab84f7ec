/-
What the lines of a text say of it.

A pattern that takes no line end, and to which a line end says no more than the end of the text
does, is matched within one line, so it occurs in a text exactly if it occurs in one of the text's
lines (`Pattern.occursIn_iff_exists_line`).  Both patterns about a module's text are of this kind.
Whether a text is to be opened is then decided by the set of its lines, and on a line the pattern
of the marker comes down to one look from left to right (`Trigger.declaredOn`).
-/
import Standin.Proofs.Triggers
import Standin.Proofs.Splitting

set_option autoImplicit false

namespace Standin

open Text (Pattern Spot isWord splitChars)

/-! ## Lines -/

/-- The lines of a text: what stands between its line feeds. -/
def linesOf (source : String) : List String :=
  (splitChars '\n' source.toList).map String.ofList

theorem not_mem_of_mem_linesOf {line source : String} (h : line ∈ linesOf source) :
    '\n' ∉ line.toList := by
  obtain ⟨part, hpart, rfl⟩ := List.mem_map.mp h
  rw [String.toList_ofList]
  exact Text.not_mem_of_mem_splitChars hpart

/-- The lines with a line feed between them are the text. -/
theorem intercalate_linesOf (source : String) : "\n".intercalate (linesOf source) = source := by
  rw [← String.toList_inj, String.toList_intercalate, linesOf, List.map_map]
  have hid : String.toList ∘ String.ofList = id := funext fun _ => String.toList_ofList
  rw [hid, List.map_id]
  exact Text.intercalate_splitChars source.toList

theorem linesOf_ne_nil (source : String) : linesOf source ≠ [] := by
  simp [linesOf, Text.splitChars_ne_nil]

/-! ## Patterns that stay on their line -/

namespace Text.Pattern

/-- Whether the pattern takes no line end, and a line end says the same to it as the beginning or
the end of the text. -/
def staysOnLine : Pattern → Bool
  | .one p | .run p | .notNext p | .notAfter p => !p '\n'
  | .lineStart | .lineEnd => true
  | .boundary => !isWord '\n'
  | .seq a b | .either a b => a.staysOnLine && b.staysOnLine
  | .maybe a => a.staysOnLine

variable {a : Pattern} {k k' : Spot → Bool}

theorem any_head?_line {p : Char → Bool} (hp : p '\n' = false) (x y : List Char) :
    (x ++ '\n' :: y).head?.any p = x.head?.any p := by
  cases x with
  | nil => exact hp
  | cons c x => rfl

theorem tryRun_line {p : Char → Bool} (hp : p '\n' = false) {x y : List Char}
    (hk : ∀ before x, k ⟨before, x ++ '\n' :: y⟩ = k' ⟨before, x⟩) (before : Option Char) :
    tryRun p k before (x ++ '\n' :: y) = tryRun p k' before x := by
  induction x generalizing before with
  | nil => 
      have h := hk before []
      rw [List.nil_append] at h
      rw [List.nil_append, tryRun, tryRun, hp, h, Bool.false_and, Bool.false_or]
  | cons c x ih =>
      have h := hk before (c :: x)
      rw [List.cons_append] at h
      rw [List.cons_append, tryRun, tryRun, ih, h]

/-- What comes after the end of its line does not matter to a pattern that stays on it. -/
theorem matchThen_line (ha : a.staysOnLine = true) {x y : List Char} {before : Option Char}
    (hk : ∀ before x, k ⟨before, x ++ '\n' :: y⟩ = k' ⟨before, x⟩) :
    a.matchThen k ⟨before, x ++ '\n' :: y⟩ = a.matchThen k' ⟨before, x⟩ := by
  induction a generalizing k k' before x with
  | one p =>
      have hp : p '\n' = false := by simpa [staysOnLine] using ha
      cases x with
      | nil => simp [matchThen, hp]
      | cons c x => simp [matchThen, hk]
  | run p =>
      have hp : p '\n' = false := by simpa [staysOnLine] using ha
      exact tryRun_line hp hk before
  | lineStart => simp [matchThen, hk]
  | lineEnd =>
      have hend : ((x ++ '\n' :: y).isEmpty || (x ++ '\n' :: y).head? == some '\n') =
          (x.isEmpty || x.head? == some '\n') := by cases x <;> rfl
      rw [matchThen, matchThen, hend, hk]
  | notNext p =>
      have hp : p '\n' = false := by simpa [staysOnLine] using ha
      rw [matchThen, matchThen, any_head?_line hp, hk]
  | notAfter p => rw [matchThen, matchThen, hk]
  | boundary =>
      have hp : isWord '\n' = false := by simpa [staysOnLine] using ha
      rw [matchThen, matchThen, any_head?_line hp, hk]
  | seq a b iha ihb =>
      rw [staysOnLine, Bool.and_eq_true] at ha
      exact iha ha.1 fun before x => ihb ha.2 hk
  | either a b iha ihb =>
      rw [staysOnLine, Bool.and_eq_true] at ha
      rw [matchThen, matchThen, iha ha.1 hk, ihb ha.2 hk]
  | maybe a iha => rw [matchThen, matchThen, iha ha hk, hk]

/-- To a pattern that stays on its line, the line end before it is like the beginning of the
text. -/
theorem matchThen_newline (ha : a.staysOnLine = true) {x : List Char}
    (hk : ∀ x, k ⟨some '\n', x⟩ = k ⟨none, x⟩) :
    a.matchThen k ⟨some '\n', x⟩ = a.matchThen k ⟨none, x⟩ := by
  induction a generalizing k x with
  | one p => cases x <;> rfl
  | run p => cases x <;> simp [matchThen, tryRun, hk]
  | lineStart => simp [matchThen, hk]
  | lineEnd => simp [matchThen, hk]
  | notNext p => simp [matchThen, hk]
  | notAfter p =>
      have hp : p '\n' = false := by simpa [staysOnLine] using ha
      simp [matchThen, hp, hk]
  | boundary =>
      have hp : isWord '\n' = false := by decide
      simp [matchThen, hp, hk]
  | seq a b iha ihb =>
      rw [staysOnLine, Bool.and_eq_true] at ha
      exact iha ha.1 fun x => ihb ha.2 hk
  | either a b iha ihb =>
      rw [staysOnLine, Bool.and_eq_true] at ha
      rw [matchThen, matchThen, iha ha.1 hk, ihb ha.2 hk]
  | maybe a iha => rw [matchThen, matchThen, iha ha hk, hk]

theorem searchFrom_newline (ha : a.staysOnLine = true) (y : List Char) :
    a.searchFrom (some '\n') y = a.searchFrom none y := by
  cases y with
  | nil => exact matchThen_newline ha fun _ => rfl
  | cons c y => rw [searchFrom, searchFrom, matchThen_newline ha fun _ => rfl]

theorem searchFrom_line (ha : a.staysOnLine = true) (before : Option Char) (x y : List Char) :
    a.searchFrom before (x ++ '\n' :: y) = (a.searchFrom before x || a.searchFrom none y) := by
  induction x generalizing before with
  | nil =>
      have h : a.matchThen (fun _ => true) ⟨before, [] ++ '\n' :: y⟩ =
          a.matchThen (fun _ => true) ⟨before, []⟩ := matchThen_line ha fun _ _ => rfl
      rw [List.nil_append] at h
      rw [List.nil_append, searchFrom, searchFrom, h, searchFrom_newline ha]
  | cons c x ih =>
      have h : a.matchThen (fun _ => true) ⟨before, (c :: x) ++ '\n' :: y⟩ =
          a.matchThen (fun _ => true) ⟨before, c :: x⟩ := matchThen_line ha fun _ _ => rfl
      rw [List.cons_append] at h
      rw [List.cons_append, searchFrom, searchFrom, h, ih, Bool.or_assoc]

/-- **A pattern that stays on its line** occurs in two texts with a line feed between them if it
occurs in one of the two. -/
theorem occursIn_append_newline (ha : a.staysOnLine = true) (s t : String) :
    a.occursIn (s ++ "\n" ++ t) = (a.occursIn s || a.occursIn t) := by
  have heq : (s ++ "\n" ++ t).toList = s.toList ++ '\n' :: t.toList := by simp
  rw [occursIn, heq, searchFrom_line ha]
  rfl

/-- Of texts with line feeds between them, one has the pattern exactly if all of them together
have. -/
theorem occursIn_intercalate (ha : a.staysOnLine = true) {lines : List String} (hne : lines ≠ []) :
    a.occursIn ("\n".intercalate lines) = lines.any a.occursIn := by
  induction lines with
  | nil => exact absurd rfl hne
  | cons line lines ih =>
      by_cases hlast : lines = []
      · rw [hlast, String.intercalate_singleton, List.any_cons, List.any_nil, Bool.or_false]
      · rw [String.intercalate_cons_of_ne_nil hlast, occursIn_append_newline ha, ih hlast,
          List.any_cons]

/-- **A pattern that stays on its line** occurs in a text exactly if it occurs in a line of it. -/
theorem occursIn_iff_exists_line (ha : a.staysOnLine = true) (source : String) :
    a.occursIn source = true ↔ ∃ line ∈ linesOf source, a.occursIn line = true := by
  have h := occursIn_intercalate ha (linesOf_ne_nil source)
  rw [intercalate_linesOf] at h
  rw [h, List.any_eq_true]

end Text.Pattern

/-! ## Both patterns, line by line -/

theorem staysOnLine_marker : Trigger.markerPattern.staysOnLine = true := by decide

theorem staysOnLine_ignoreWord : Trigger.ignoreWordPattern.staysOnLine = true := by decide

theorem optsIn_append_newline (a b : String) : optsIn (a ++ "\n" ++ b) = (optsIn a || optsIn b) :=
  Pattern.occursIn_append_newline staysOnLine_marker a b

theorem optsOut_append_newline (a b : String) :
    optsOut (a ++ "\n" ++ b) = (optsOut a || optsOut b) :=
  Pattern.occursIn_append_newline staysOnLine_ignoreWord a b

theorem optsIn_iff_exists_line (source : String) :
    optsIn source = true ↔ ∃ line ∈ linesOf source, optsIn line = true :=
  Pattern.occursIn_iff_exists_line staysOnLine_marker source

theorem optsOut_iff_exists_line (source : String) :
    optsOut source = true ↔ ∃ line ∈ linesOf source, optsOut line = true :=
  Pattern.occursIn_iff_exists_line staysOnLine_ignoreWord source

/-- Whether a text is to be opened depends on the set of its lines only. -/
theorem asksToOpen_congr {a b : String} (h : ∀ line, line ∈ linesOf a ↔ line ∈ linesOf b) :
    asksToOpen a = asksToOpen b := by
  have hin : optsIn a = optsIn b := by
    rw [Bool.eq_iff_iff, optsIn_iff_exists_line, optsIn_iff_exists_line]
    simp only [h]
  have hout : optsOut a = optsOut b := by
    rw [Bool.eq_iff_iff, optsOut_iff_exists_line, optsOut_iff_exists_line]
    simp only [h]
  rw [asksToOpen, asksToOpen, hin, hout]

/-! ## The marker on a line -/

namespace Trigger

/-- A character of an annotation on one line: not the sign of a value, a comment or a further
statement. -/
def isHintChar (c : Char) : Bool := !(c == '=' || c == '#' || c == ';')

/-- Whether an equals sign that begins no comparison comes next. -/
def valueAhead : List Char → Bool
  | '=' :: rest => rest.head? != some '='
  | _ => false

/-- Whether a colon comes next and then a run of an annotation's characters that ends with the line,
or where a comment, a further statement or a value begins. -/
def hintAhead : List Char → Bool
  | ':' :: rest =>
    let after := rest.dropWhile isHintChar
    !(rest.takeWhile isHintChar).isEmpty &&
      (after.isEmpty || after.head?.any isTail || valueAhead after)
  | _ => false

/-- Whether the marker is declared on a line, in one look from left to right: its name, all blanks
after it, and then a value or an annotation. -/
def declaredOn (line : List Char) : Bool :=
  let rest := (line.drop markerName.length).dropWhile isInlineBlank
  markerName.toList.isPrefixOf line && (valueAhead rest || hintAhead rest)

/-- An annotation may not go up to an equals sign that begins a comparison. -/
example : declaredOn "mockingbird: Final = None".toList = true ∧
    declaredOn "mockingbird: size == 1".toList = false := by decide

theorem valueAhead_iff {cs : List Char} : valueAhead cs = true ↔ BeginsValue cs := by
  constructor
  · intro h
    unfold valueAhead at h
    split at h
    · next rest => exact ⟨rest, rfl, by simpa using h⟩
    · cases h
  · rintro ⟨rest, rfl, hrest⟩
    rw [valueAhead]
    simpa using hrest

/-- Within a line the characters of an annotation are told by the signs alone. -/
theorem isAnnotationChar_iff {c : Char} (hc : c ≠ '\n') :
    isAnnotationChar c = true ↔ isHintChar c = true := by
  simp [isAnnotationChar, isHintChar, hc]

/-- What comes after the run of an annotation's characters on a line. -/
theorem head?_dropWhile_isHintChar {cs : List Char} (h : '\n' ∉ cs) :
    EndsLine (cs.dropWhile isHintChar) ↔
      (cs.dropWhile isHintChar).isEmpty = true ∨
        (cs.dropWhile isHintChar).head?.any isTail = true := by
  have hline : '\n' ∉ cs.dropWhile isHintChar := fun hmem =>
    h ((List.dropWhile_sublist _).subset hmem)
  generalize cs.dropWhile isHintChar = after at hline
  cases after with
  | nil => simp [EndsLine]
  | cons c after =>
      have hc : c ≠ '\n' := fun heq => hline (heq ▸ List.mem_cons_self)
      simp [EndsLine, hc]

/-- On a line, what may come after an annotation begins with none of its characters. -/
theorem isHintChar_eq_false_of_ends {after : List Char} (h : '\n' ∉ after)
    (hafter : EndsLine after ∨ BeginsValue after) : ∀ c ∈ after.head?, isHintChar c = false := by
  intro c hc
  obtain ⟨after', rfl⟩ := List.head?_eq_some_iff.mp hc
  obtain hend | ⟨_, heq, -⟩ := hafter
  · obtain rfl | htail := hend c rfl
    · exact absurd List.mem_cons_self h
    · rw [isTail, Bool.or_eq_true, beq_iff_eq, beq_iff_eq] at htail
      obtain rfl | rfl := htail <;> decide
  · obtain rfl : c = '=' := (List.cons.inj heq).1
    decide

/-- On a line, the longest run of an annotation's characters is all that there is to look at. -/
theorem hintAhead_iff {cs : List Char} (h : '\n' ∉ cs) :
    hintAhead cs = true ↔ BeginsHint cs := by
  constructor
  · intro hahead
    unfold hintAhead at hahead
    split at hahead
    · next rest =>
      have hrest : '\n' ∉ rest := fun hmem => h (List.mem_cons_of_mem _ hmem)
      simp only [Bool.and_eq_true, Bool.or_eq_true, Bool.not_eq_true', List.isEmpty_eq_false_iff,
        ← head?_dropWhile_isHintChar hrest, valueAhead_iff] at hahead
      refine ⟨rest.takeWhile isHintChar, rest.dropWhile isHintChar, ?_, hahead.1, ?_, hahead.2⟩
      · rw [List.cons_append, List.takeWhile_append_dropWhile]
      · intro c hc
        have hmem : c ∈ rest := (List.takeWhile_sublist _).subset hc
        have hline : c ≠ '\n' := fun heq => hrest (heq ▸ hmem)
        exact (isAnnotationChar_iff hline).mpr (List.mem_takeWhile_imp hc)
    · cases hahead
  · rintro ⟨hint, after, rfl, hne, hhint, hafter⟩
    have hrest : '\n' ∉ hint ++ after := fun hmem => h (List.mem_cons_of_mem _ hmem)
    -- What ends an annotation is none of its characters, so the run is the annotation.
    have htake : ∀ c ∈ hint, isHintChar c = true := by
      intro c hc
      have hline : c ≠ '\n' := fun heq => hrest (heq ▸ List.mem_append_left _ hc)
      exact (isAnnotationChar_iff hline).mp (hhint c hc)
    have hstop := isHintChar_eq_false_of_ends
      (fun hmem => hrest (List.mem_append_right _ hmem)) hafter
    have hdrop : (hint ++ after).dropWhile isHintChar = after := by
      rw [List.dropWhile_append_of_pos htake]
      cases after with
      | nil => rfl
      | cons c after => rw [List.dropWhile_cons, hstop c rfl, if_neg Bool.false_ne_true]
    have hrun : (hint ++ after).takeWhile isHintChar = hint := by
      have hboth := List.takeWhile_append_dropWhile (p := isHintChar) (l := hint ++ after)
      rw [hdrop] at hboth
      exact List.append_cancel_right hboth
    have hend := head?_dropWhile_isHintChar hrest
    rw [hdrop] at hend
    rw [List.cons_append, hintAhead, hdrop, hrun]
    simp only [Bool.and_eq_true, Bool.or_eq_true, Bool.not_eq_true', List.isEmpty_eq_false_iff,
      ← hend, valueAhead_iff]
    exact ⟨hne, hafter⟩

theorem not_isInlineBlank_of_begins {cs : List Char} (h : BeginsValue cs ∨ BeginsHint cs) :
    cs.dropWhile isInlineBlank = cs := by
  obtain ⟨rest, rfl, -⟩ | ⟨hint, rest, rfl, -⟩ := h <;> rfl

/-- On a line, one look from left to right tells whether it begins with the declaration of the
marker. -/
theorem declaredOn_iff {line : List Char} (h : '\n' ∉ line) :
    declaredOn line = true ↔ Declares line := by
  constructor
  · intro hdeclared
    rw [declaredOn, Bool.and_eq_true, Bool.or_eq_true, List.isPrefixOf_iff_prefix] at hdeclared
    obtain ⟨⟨tail, rfl⟩, hahead⟩ := hdeclared
    have hline : '\n' ∉ tail.dropWhile isInlineBlank := fun hmem =>
      h (List.mem_append_right _ ((List.dropWhile_sublist _).subset hmem))
    have hdrop : (markerName.toList ++ tail).drop markerName.length = tail := List.drop_left
    rw [hdrop, valueAhead_iff, hintAhead_iff hline] at hahead
    refine ⟨tail.takeWhile isInlineBlank, tail.dropWhile isInlineBlank, ?_, ?_, hahead⟩
    · rw [List.takeWhile_append_dropWhile]
    · exact fun c hc => List.mem_takeWhile_imp hc
  · rintro ⟨blanks, rest, rfl, hblanks, hahead⟩
    have hline : '\n' ∉ rest := fun hmem =>
      h (List.mem_append_right _ (List.mem_append_right _ hmem))
    have hdrop : ((markerName.toList ++ (blanks ++ rest)).drop markerName.length).dropWhile
        isInlineBlank = rest := by
      have hname : (markerName.toList ++ (blanks ++ rest)).drop markerName.length =
        blanks ++ rest := List.drop_left
      rw [hname, List.dropWhile_append_of_pos hblanks, not_isInlineBlank_of_begins hahead]
    rw [declaredOn, hdrop, Bool.and_eq_true, Bool.or_eq_true, valueAhead_iff, hintAhead_iff hline]
    exact ⟨List.isPrefixOf_iff_prefix.mpr (List.prefix_append _ _), hahead⟩

end Trigger

/-- A text that is one line opts in if the marker is declared on it. -/
theorem optsIn_line {line : String} (h : '\n' ∉ line.toList) :
    optsIn line = true ↔ Trigger.declaredOn line.toList = true := by
  rw [optsIn_iff, Trigger.declaredOn_iff h]
  constructor
  · rintro ⟨before, after, heq, hbefore, hdeclares⟩
    -- Nothing can stand before the declaration but a line end.
    cases hlast : before.getLast? with
    | none => rwa [heq, List.getLast?_eq_none_iff.mp hlast]
    | some c =>
        have hc : c ∈ line.toList := heq ▸ List.mem_append_left _ (List.mem_of_getLast? hlast)
        exact absurd (hbefore c hlast ▸ hc) h
  · intro hdeclares
    exact ⟨[], line.toList, rfl, by simp, hdeclares⟩

/-- **A text is judged line by line.** It opts in exactly if the marker is declared on one of its
lines; with a line feed between them two texts opt in, or hold the ignore word, exactly if one of
them does; whether a text is to be opened depends on the set of its lines only; and a line with the
ignore word, wherever it is put among others, keeps the text as it is. -/
theorem asksToOpen_line_by_line (source : String) :
    (optsIn source = true ↔
      ∃ line ∈ linesOf source, Trigger.declaredOn line.toList = true) ∧
    (∀ next, optsIn (source ++ "\n" ++ next) = (optsIn source || optsIn next)) ∧
    (∀ next, optsOut (source ++ "\n" ++ next) = (optsOut source || optsOut next)) ∧
    (∀ other, (∀ line, line ∈ linesOf other ↔ line ∈ linesOf source) →
      asksToOpen other = asksToOpen source) ∧
    ∀ before line after, optsOut line = true →
      asksToOpen ("\n".intercalate (before ++ line :: after)) = false := by
  refine ⟨?_, optsIn_append_newline source, optsOut_append_newline source,
    fun other h => asksToOpen_congr h, ?_⟩
  · rw [optsIn_iff_exists_line]
    constructor
    · rintro ⟨line, hline, hin⟩
      exact ⟨line, hline, (optsIn_line (not_mem_of_mem_linesOf hline)).mp hin⟩
    · rintro ⟨line, hline, hdeclared⟩
      exact ⟨line, hline, (optsIn_line (not_mem_of_mem_linesOf hline)).mpr hdeclared⟩
  · intro before line after hout
    have hne : before ++ line :: after ≠ [] := by simp
    have hall : optsOut ("\n".intercalate (before ++ line :: after)) = true := by
      rw [optsOut, Pattern.occursIn_intercalate staysOnLine_ignoreWord hne, List.any_eq_true]
      exact ⟨line, List.mem_append_right _ List.mem_cons_self, hout⟩
    rw [asksToOpen, hall, Bool.not_true, Bool.and_false]

/-- Lines in another order, one of them twice, ask for the same; a comment with the ignore word
before them asks for the opposite. -/
theorem asksToOpen_line_by_line_birdhouse :
    asksToOpen "mockingbird: Final = None\nimport nest\nimport nest" =
      asksToOpen "import nest\nmockingbird: Final = None" ∧
    asksToOpen "import nest\nmockingbird: Final = None" = true ∧
    asksToOpen ("\n".intercalate
      (["import nest"] ++ "# mockingbird-ignore" :: ["mockingbird: Final = None"])) = false := by
  have hlines (line : String) :
      line ∈ linesOf "mockingbird: Final = None\nimport nest\nimport nest" ↔
        line ∈ linesOf "import nest\nmockingbird: Final = None" := by
    have htwice : linesOf "mockingbird: Final = None\nimport nest\nimport nest" =
      ["mockingbird: Final = None", "import nest", "import nest"] := by decide
    have honce : linesOf "import nest\nmockingbird: Final = None" =
      ["import nest", "mockingbird: Final = None"] := by decide
    rw [htwice, honce]
    simp [or_comm]
  obtain ⟨-, -, -, hsame, hignored⟩ :=
    asksToOpen_line_by_line "import nest\nmockingbird: Final = None"
  exact ⟨hsame _ hlines, by decide, hignored _ _ _ (by decide)⟩

end Standin
