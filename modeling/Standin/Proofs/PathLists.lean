/-
What a list of paths on the command line says.

A list is written with commas, and a part between commas holds one item with blanks around it, or
blanks alone.  That says what the items of a text are without a word about how they are read
(`Lists`), and reading finds just those.  So the items replace the paths of the project's file, and
where there are none the file's paths should stay.  They do for a text of blanks, but not for
commas and blanks: then no paths are set at all, and the project's own directory takes their place
(`merge_takesPaths_iff`).
-/
import Standin.Config
import Standin.Proofs.Splitting
import Mathlib.Data.List.TakeWhile

set_option autoImplicit false

namespace Standin

open Text (isBlank stripChars stripRight)

/-! ## Cutting off blanks -/

namespace Text

variable {before after item : List Char}

theorem dropWhile_isBlank_append (h : ∀ c ∈ before, isBlank c = true) :
    (before ++ item).dropWhile isBlank = item.dropWhile isBlank :=
  List.dropWhile_append_of_pos h

theorem stripChars_blank (h : ∀ c ∈ before, isBlank c = true) : stripChars before = [] := by
  rw [stripChars, List.dropWhile_eq_nil_iff.mpr h]
  rfl

/-- Blanks before a character that is none are cut off, and so are those after the last such. -/
theorem stripChars_append (hbefore : ∀ c ∈ before, isBlank c = true)
    (hafter : ∀ c ∈ after, isBlank c = true) (hfirst : ∀ c ∈ item.head?, isBlank c = false)
    (hlast : ∀ c ∈ item.getLast?, isBlank c = false) (hne : item ≠ []) :
    stripChars (before ++ (item ++ after)) = item := by
  have keep {cs rest : List Char} (hcs : cs ≠ []) (hhead : ∀ c ∈ cs.head?, isBlank c = false) :
      (cs ++ rest).dropWhile isBlank = cs ++ rest := by
    cases cs with
    | nil => exact absurd rfl hcs
    | cons c cs => rw [List.cons_append, List.dropWhile_cons, hhead c rfl, if_neg Bool.false_ne_true]
  have hreverse : item.reverse ≠ [] := by simpa using hne
  have hhead : ∀ c ∈ item.reverse.head?, isBlank c = false := by simpa using hlast
  have hback : ∀ c ∈ after.reverse, isBlank c = true := by simpa using hafter
  rw [stripChars, dropWhile_isBlank_append hbefore, keep hne hfirst, stripRight,
    List.reverse_append, dropWhile_isBlank_append hback]
  have hkeep : (item.reverse ++ []).dropWhile isBlank = item.reverse ++ [] := keep hreverse hhead
  rw [List.append_nil] at hkeep
  rw [hkeep, List.reverse_reverse]

theorem head?_dropWhile_isBlank (cs : List Char) :
    ∀ c ∈ (cs.dropWhile isBlank).head?, isBlank c = false := by
  intro c hc
  have h := List.head?_dropWhile_not isBlank cs
  rw [Option.mem_def] at hc
  rwa [hc] at h

/-- A text is of blanks alone, or it has a first and a last character that is none. -/
theorem blank_or_exists_item (part : List Char) :
    (∀ c ∈ part, isBlank c = true) ∨
      ∃ before item after, part = before ++ (item ++ after) ∧ (∀ c ∈ before, isBlank c = true) ∧
        (∀ c ∈ after, isBlank c = true) ∧ item ≠ [] ∧ (∀ c ∈ item.head?, isBlank c = false) ∧
        ∀ c ∈ item.getLast?, isBlank c = false := by
  by_cases hblank : part.dropWhile isBlank = []
  · exact .inl (List.dropWhile_eq_nil_iff.mp hblank)
  · have hback : stripChars part ++ ((part.dropWhile isBlank).reverse.takeWhile isBlank).reverse =
        part.dropWhile isBlank := by
      rw [stripChars, stripRight, ← List.reverse_append, List.takeWhile_append_dropWhile,
        List.reverse_reverse]
    obtain ⟨c, rest, hrest⟩ := List.exists_cons_of_ne_nil hblank
    have hc : isBlank c = false := head?_dropWhile_isBlank part c (by rw [hrest]; rfl)
    -- The first character that is no blank is still there when the blanks at the end are gone.
    have hne : stripChars part ≠ [] := by
      intro hnil
      rw [hnil, List.nil_append] at hback
      have hmem : c ∈ ((part.dropWhile isBlank).reverse.takeWhile isBlank).reverse := by
        rw [hback, hrest]
        exact List.mem_cons_self
      rw [List.mem_reverse] at hmem
      rw [List.mem_takeWhile_imp hmem] at hc
      cases hc
    refine .inr ⟨part.takeWhile isBlank, stripChars part,
      ((part.dropWhile isBlank).reverse.takeWhile isBlank).reverse, ?_, ?_, ?_, hne, ?_, ?_⟩
    · rw [hback, List.takeWhile_append_dropWhile]
    · exact fun c hc => List.mem_takeWhile_imp hc
    · intro c hc
      exact List.mem_takeWhile_imp (List.mem_reverse.mp hc)
    · intro d hd
      apply head?_dropWhile_isBlank part
      rw [← hback]
      exact List.mem_head?_append_of_mem_head? hd
    · intro d hd
      rw [stripChars, stripRight, List.getLast?_reverse] at hd
      exact head?_dropWhile_isBlank _ d hd

end Text

/-! ## Written lists -/

/-- That a text is an item of a list: it holds no comma, and neither begins nor ends with a blank. -/
structure IsItem (item : List Char) : Prop where
  ne_nil : item ≠ []
  comma_not_mem : ',' ∉ item
  head_not_blank : ∀ c ∈ item.head?, isBlank c = false
  last_not_blank : ∀ c ∈ item.getLast?, isBlank c = false

/-- That the parts between commas write these items: a part holds one item with blanks around it, or
blanks alone. -/
inductive WritesItems : List (List Char) → List (List Char) → Prop
  | nil : WritesItems [] []
  | blank {part : List Char} {parts items : List (List Char)}
    (hpart : ∀ c ∈ part, isBlank c = true) (hrest : WritesItems parts items) :
    WritesItems (part :: parts) items
  | item {before item after : List Char} {parts items : List (List Char)}
    (hbefore : ∀ c ∈ before, isBlank c = true) (hafter : ∀ c ∈ after, isBlank c = true)
    (hitem : IsItem item) (hrest : WritesItems parts items) :
    WritesItems ((before ++ (item ++ after)) :: parts) (item :: items)

/-- That a text lists these items. -/
def Lists (s : String) (items : List String) : Prop :=
  ∃ parts, s.toList = [','].intercalate parts ∧ WritesItems parts (items.map String.toList)

theorem comma_not_blank : isBlank ',' = false := by decide

theorem IsItem.stripChars_eq {before item after : List Char} (h : IsItem item)
    (hbefore : ∀ c ∈ before, isBlank c = true) (hafter : ∀ c ∈ after, isBlank c = true) :
    stripChars (before ++ (item ++ after)) = item :=
  Text.stripChars_append hbefore hafter h.head_not_blank h.last_not_blank h.ne_nil

namespace WritesItems

variable {part : List Char} {parts items : List (List Char)}

/-- Reading the parts gives the items that they write. -/
theorem read (h : WritesItems parts items) : (parts.map stripChars).filter (!·.isEmpty) = items := by
  induction h with
  | nil => rfl
  | blank hpart _ ih =>
      rw [List.map_cons, Text.stripChars_blank hpart, List.filter_cons_of_neg (by simp), ih]
  | item hbefore hafter hitem _ ih =>
      have hne := hitem.ne_nil
      rw [List.map_cons, hitem.stripChars_eq hbefore hafter, List.filter_cons_of_pos (by simpa), ih]

/-- No part has a comma. -/
theorem comma_not_mem (h : WritesItems parts items) : ∀ part ∈ parts, ',' ∉ part := by
  have blank {cs : List Char} (hcs : ∀ c ∈ cs, isBlank c = true) : ',' ∉ cs := by
    intro hmem
    have hcomma := hcs _ hmem
    rw [comma_not_blank] at hcomma
    cases hcomma
  induction h with
  | nil => simp
  | blank hpart _ ih =>
      intro part hmem
      obtain rfl | hmem := List.mem_cons.mp hmem
      · exact blank hpart
      · exact ih part hmem
  | item hbefore hafter hitem _ ih =>
      intro part hmem
      obtain rfl | hmem := List.mem_cons.mp hmem
      · simp only [List.mem_append, not_or]
        exact ⟨blank hbefore, hitem.comma_not_mem, blank hafter⟩
      · exact ih part hmem

/-- Parts without commas write what is left of them when blanks and blank parts are gone. -/
theorem of_comma_not_mem (h : ∀ part ∈ parts, ',' ∉ part) :
    WritesItems parts ((parts.map stripChars).filter (!·.isEmpty)) := by
  induction parts with
  | nil => exact .nil
  | cons part parts ih =>
      have hpart := h part List.mem_cons_self
      have hrest := ih fun other hother => h other (List.mem_cons_of_mem _ hother)
      obtain hblank | ⟨before, item, after, rfl, hbefore, hafter, hne, hhead, hlast⟩ :=
        Text.blank_or_exists_item part
      · rw [List.map_cons, Text.stripChars_blank hblank, List.filter_cons_of_neg (by simp)]
        exact .blank hblank hrest
      · have hcomma : ',' ∉ item := fun hmem =>
          hpart (List.mem_append_right _ (List.mem_append_left _ hmem))
        have hitem : IsItem item := ⟨hne, hcomma, hhead, hlast⟩
        rw [List.map_cons, hitem.stripChars_eq hbefore hafter,
          List.filter_cons_of_pos (by simpa using hne)]
        exact .item hbefore hafter hitem hrest

end WritesItems

/-- **The items that are read** are those that the text lists. -/
theorem lists_iff {s : String} {items : List String} : Lists s items ↔ listItems s = items := by
  have hchars : ∀ parts : List (List Char), (parts.map String.ofList).map String.toList = parts := by
    intro parts
    rw [List.map_map]
    exact (List.map_congr_left fun _ _ => String.toList_ofList).trans (List.map_id _)
  have hitems : items = (items.map String.toList).map String.ofList := by
    rw [List.map_map]
    exact ((List.map_congr_left fun _ _ => String.ofList_toList).trans (List.map_id _)).symm
  constructor
  · rintro ⟨parts, htext, hwrites⟩
    rw [listItems, hitems, ← hwrites.read]
    by_cases hnone : parts = []
    · rw [hnone] at htext ⊢
      rw [htext]
      rfl
    · rw [htext, Text.splitChars_eq_splitOn,
        List.splitOn_intercalate _ hwrites.comma_not_mem hnone]
  · intro hread
    refine ⟨Text.splitChars ',' s.toList, (Text.intercalate_splitChars _).symm, ?_⟩
    rw [← hread, listItems, hchars]
    exact .of_comma_not_mem fun part hpart => Text.not_mem_of_mem_splitChars hpart

/-- Nothing is left of a text without its blanks exactly if it is of blanks alone. -/
theorem strip_isEmpty_iff {s : String} :
    (Text.strip s).isEmpty = true ↔ ∀ c ∈ s.toList, isBlank c = true := by
  rw [Text.strip, String.isEmpty_iff, ← String.toList_eq_nil_iff, String.toList_ofList]
  constructor
  · intro hstrip
    obtain hblank | ⟨before, item, after, heq, hbefore, hafter, hne, hhead, hlast⟩ :=
      Text.blank_or_exists_item s.toList
    · exact hblank
    · rw [heq, Text.stripChars_append hbefore hafter hhead hlast hne] at hstrip
      exact absurd hstrip hne
  · exact Text.stripChars_blank

theorem lists_nil_of_blank {s : String} (h : ∀ c ∈ s.toList, isBlank c = true) : Lists s [] :=
  ⟨[s.toList], by simp, .blank h .nil⟩

/-- A text that lists nothing is of blanks alone exactly if it has no comma. -/
theorem blank_iff_of_lists_nil {s : String} (h : Lists s []) :
    (∀ c ∈ s.toList, isBlank c = true) ↔ ',' ∉ s.toList := by
  constructor
  · intro hblank hcomma
    have hc := hblank _ hcomma
    rw [comma_not_blank] at hc
    cases hc
  · intro hcomma
    rw [lists_iff, listItems, Text.splitChars_of_not_mem hcomma, List.map_eq_nil_iff,
      List.filter_eq_nil_iff] at h
    have hstrip : stripChars s.toList = [] := by simpa using h
    rw [← strip_isEmpty_iff, Text.strip, hstrip]
    rfl

/-! ## The paths that are set -/

/-- That the paths which are set are those that the command line lists, and those of the file if it
lists none, so that the directories are the file's. -/
structure Settings.TakesPaths (file merged : Settings) (items : List String) : Prop where
  listed : items ≠ [] → merged.paths = .list (items.map .text)
  kept : items = [] → merged.paths = file.paths ∧
    ∀ project, directoriesIn project merged.paths = directoriesIn project file.paths

/-- **When the paths are those that should be set.** Every text lists some items, perhaps none. If
there are any they are the paths; if there are none, the paths of the file are kept exactly if the
text has no comma or the file's paths are an empty list themselves. -/
theorem Settings.merge_takesPaths_iff (file : Settings) (options : Options) (s : String)
    (hs : options.paths = some s) :
    (∃ items, Lists s items) ∧ ∀ items, Lists s items →
      (file.TakesPaths (file.merge options) items ↔
        items ≠ [] ∨ ',' ∉ s.toList ∨ file.paths = .list []) := by
  refine ⟨⟨listItems s, lists_iff.mpr rfl⟩, fun items hitems => ?_⟩
  have hmerged : (file.merge options).paths =
      if (Text.strip s).isEmpty then file.paths else .list (items.map .text) := by
    rw [merge, hs, ← lists_iff.mp hitems]
  by_cases hnone : items = []
  · rw [hnone] at hitems
    rw [hnone, List.map_nil] at hmerged
    rw [hnone]
    constructor
    · intro h
      by_cases hcomma : ',' ∈ s.toList
      · have hkept := (h.kept rfl).1
        have hblank := (blank_iff_of_lists_nil hitems).not.mpr (not_not.mpr hcomma)
        rw [hmerged, if_neg (strip_isEmpty_iff.not.mpr hblank)] at hkept
        exact .inr (.inr hkept.symm)
      · exact .inr (.inl hcomma)
    · intro h
      have hkept : (file.merge options).paths = file.paths := by
        rw [hmerged]
        obtain h | h | h := h
        · exact absurd rfl h
        · rw [if_pos (strip_isEmpty_iff.mpr ((blank_iff_of_lists_nil hitems).mpr h))]
        · rw [h, ite_self]
      exact ⟨fun h => absurd rfl h, fun _ => ⟨hkept, fun project => by rw [hkept]⟩⟩
  · -- With an item in it, the text is not of blanks alone.
    have hsome : ¬ (Text.strip s).isEmpty = true := by
      intro hempty
      have hnil := lists_iff.mp (lists_nil_of_blank (strip_isEmpty_iff.mp hempty))
      exact hnone ((lists_iff.mp hitems).symm.trans hnil)
    rw [if_neg hsome] at hmerged
    exact ⟨fun _ => .inl hnone, fun _ => ⟨fun _ => hmerged, fun h => absurd h hnone⟩⟩

/-- The settings of a project that sets one directory. -/
def Settings.ofNest : Settings := ⟨.nothing, .list [.text "nest"], .nothing, .nothing⟩

/-- Two directories with blanks around them and nothing between two commas. -/
theorem Settings.merge_takesPaths_birdhouse :
    Lists " src ,, nest/lib\t" ["src", "nest/lib"] ∧
      ofNest.TakesPaths (ofNest.merge ⟨false, some " src ,, nest/lib\t", false⟩)
        ["src", "nest/lib"] := by
  have hlists : Lists " src ,, nest/lib\t" ["src", "nest/lib"] := lists_iff.mpr (by decide)
  obtain ⟨-, hiff⟩ := Settings.merge_takesPaths_iff ofNest
    ⟨false, some " src ,, nest/lib\t", false⟩ " src ,, nest/lib\t" rfl
  exact ⟨hlists, (hiff _ hlists).mpr (.inl (by decide))⟩

/-- A comma alone lists nothing, and yet the paths of the file are gone: the project's own directory
takes the place of the one that the file sets. -/
theorem Settings.not_takesPaths_comma :
    Lists "," [] ∧ ¬ ofNest.TakesPaths (ofNest.merge ⟨false, some ",", false⟩) [] ∧
      directoriesIn ⟨.slash, ["birdhouse"]⟩ ofNest.paths = .ok [⟨.slash, ["birdhouse", "nest"]⟩] ∧
      directoriesIn ⟨.slash, ["birdhouse"]⟩ (ofNest.merge ⟨false, some ",", false⟩).paths =
        .ok [⟨.slash, ["birdhouse"]⟩] := by
  have hgone : (ofNest.merge ⟨false, some ",", false⟩).paths = .list [] := by rfl
  refine ⟨lists_iff.mpr (by decide), fun h => ?_, by rfl, by rw [hgone]; rfl⟩
  have hkept := (h.kept rfl).1
  rw [hgone] at hkept
  cases hkept

end Standin
