/-
Parts of a text between separators.

Lines, the items of a list with commas and the parts of a path are all what stands between the
occurrences of one character.  What is said of them rests on two facts: a separator cuts the parts
of a text into those before it and those after it, and no part holds one.
-/
import Standin.Text.CharTable
import Mathlib.Data.List.Basic

set_option autoImplicit false

namespace Standin.Text

variable {sep : Char}

theorem splitChars_ne_nil (cs : List Char) : splitChars sep cs ≠ [] := by
  simp [splitChars]

theorem splitChars_cons (c : Char) (cs : List Char) :
    splitChars sep (c :: cs) =
      if c = sep then [] :: splitChars sep cs else (splitChars sep cs).modifyHead (c :: ·) := by
  by_cases h : c = sep
  · simp [splitChars, h]
  · simp [splitChars, h]

/-- The parts between separators are those that the library's function gives. -/
theorem splitChars_eq_splitOn (sep : Char) (cs : List Char) :
    splitChars sep cs = cs.splitOn sep := by
  induction cs with
  | nil => rfl
  | cons c cs ih =>
      rw [splitChars_cons, ih, List.splitOn, List.splitOn, List.splitOnP_cons_eq_if_modifyHead]
      simp only [beq_iff_eq]

/-- A separator cuts the parts of a text into those before it and those after it. -/
theorem splitChars_append (as bs : List Char) :
    splitChars sep (as ++ sep :: bs) = splitChars sep as ++ splitChars sep bs := by
  simp only [splitChars_eq_splitOn]
  exact List.splitOn_append_cons_self as bs

/-- A text without a separator is its only part. -/
theorem splitChars_of_not_mem {cs : List Char} (h : sep ∉ cs) : splitChars sep cs = [cs] := by
  rw [splitChars_eq_splitOn]
  exact List.splitOn_eq_singleton h

/-- The parts with a separator between them are the text. -/
theorem intercalate_splitChars (cs : List Char) : [sep].intercalate (splitChars sep cs) = cs := by
  rw [splitChars_eq_splitOn]
  exact List.intercalate_splitOn sep

/-- No part holds a separator. -/
theorem not_mem_of_mem_splitChars {part cs : List Char} (h : part ∈ splitChars sep cs) :
    sep ∉ part := by
  induction cs generalizing part with
  | nil =>
      obtain rfl : part = [] := by simpa [splitChars] using h
      exact List.not_mem_nil
  | cons c cs ih =>
      have hne : splitChars sep cs ≠ [] := splitChars_ne_nil cs
      obtain ⟨first, others, heq⟩ := List.exists_cons_of_ne_nil hne
      rw [heq] at ih
      rw [splitChars_cons, heq] at h
      by_cases hc : c = sep
      · rw [if_pos hc] at h
        obtain rfl | h := List.mem_cons.mp h
        · exact List.not_mem_nil
        · exact ih h
      · rw [if_neg hc, List.modifyHead_cons] at h
        obtain rfl | h := List.mem_cons.mp h
        · intro hmem
          obtain hsep | hmem := List.mem_cons.mp hmem
          · exact hc hsep.symm
          · exact ih List.mem_cons_self hmem
        · exact ih (List.mem_cons_of_mem _ h)

end Standin.Text
