/-
Wildcard patterns.

A pattern is a sequence of pieces: a star for any run of characters, and pieces
for one character each.  A text matches when the pieces cover all of it.  The rests
of the text that some way of matching the pieces so far leaves are kept, the
longest first; all that a star adds to them are the rests of the longest one, so
no choice is ever tried twice.
-/
import Standin.Text.CharTable

set_option autoImplicit false

namespace Standin.Text

/-- A piece of a wildcard pattern. -/
inductive Piece where
  /-- Any run of characters. -/
  | star
  /-- Any one character. -/
  | any
  /-- One character of some ranges, or with `outside` one that is in none of them. -/
  | oneOf (outside : Bool) (ranges : List (Char × Char))
  deriving DecidableEq, Repr

/-- A wildcard pattern. -/
abbrev Glob := List Piece

namespace Glob

/-! ## Sets in brackets -/

/-- A part of a set: a character that stands for itself, or a hyphen that may join two. -/
inductive SetItem where
  | char (c : Char)
  | hyphen
  deriving DecidableEq, Repr

/-- Cuts the text of a set into chunks at the hyphens that make ranges.  The end of one range is not
the beginning of another, so after such a hyphen two characters are taken as they are; `held` is how
many characters still are. -/
def chunks (held : Nat) (chunk : List Char) : List Char → List (List Char)
  | [] => [chunk]
  | c :: rest =>
    match held with
    | held + 1 => chunks held (chunk ++ [c]) rest
    | 0 => if c = '-' then chunk :: chunks 2 [] rest else chunks 0 (chunk ++ [c]) rest

/-- The chunks of a set.  A hyphen at the very end stands for itself. -/
def chunksOf (held : Nat) (cs : List Char) : List (List Char) :=
  match (chunks held [] cs).reverse with
  | [] :: last :: rest => ((last ++ ['-']) :: rest).reverse
  | all => all.reverse

/-- Takes the ranges away that begin after their end, together with their ends. -/
def dropEmptyRanges : List (List Char) → List (List Char)
  | [] => []
  | chunk :: rest =>
    match dropEmptyRanges rest with
    | [] => [chunk]
    | next :: others =>
      if chunk.getLast?.any fun a => next.head?.any fun b => b < a then
        (chunk.dropLast ++ next.drop 1) :: others
      else chunk :: next :: others

/-- The items of a set: the chunks with joining hyphens between them. -/
def itemsOf : List (List Char) → List SetItem
  | [] => []
  | [chunk] => chunk.map .char
  | chunk :: rest => chunk.map .char ++ .hyphen :: itemsOf rest

/-- The character of an item by itself. -/
def SetItem.toChar : SetItem → Char
  | .char c => c
  | .hyphen => '-'

/-- The ranges that items spell: a hyphen between two items joins them. -/
def rangesOf : List SetItem → List (Char × Char)
  | [] => []
  | a :: .hyphen :: b :: rest => (a.toChar, b.toChar) :: rangesOf rest
  | a :: rest => (a.toChar, a.toChar) :: rangesOf rest

/-- The piece for the text between brackets.  An exclamation mark in front turns the set around; a
set of nothing matches nothing, and turned around everything. -/
def setPiece (cs : List Char) : Piece :=
  let items :=
    if cs.contains '-' then
      -- The first character stands for itself, and so does the one after an exclamation mark.
      itemsOf (dropEmptyRanges (chunksOf (if cs.head? = some '!' then 2 else 1) cs))
    else cs.map .char
  match items with
  | [.char '!'] => .any
  | .char '!' :: rest => .oneOf true (rangesOf rest)
  | items => .oneOf false (rangesOf items)

/-- The text of a set that begins here, and what follows its closing bracket.  A bracket right at
the beginning belongs to the set. -/
def splitSet (cs : List Char) : Option (List Char × List Char) :=
  let (mark, body) := match cs with
    | '!' :: rest => (['!'], rest)
    | _ => ([], cs)
  let (first, body) := match body with
    | ']' :: rest => ([']'], rest)
    | _ => ([], body)
  match body.dropWhile (· != ']') with
  | ']' :: rest => some (mark ++ first ++ body.takeWhile (· != ']'), rest)
  | _ => none

theorem length_splitSet_lt {cs set rest : List Char} (h : splitSet cs = some (set, rest)) :
    rest.length < cs.length + 1 := by
  have cut (l : List Char) : (l.dropWhile (· != ']')).length ≤ l.length :=
    (List.dropWhile_sublist _).length_le
  unfold splitSet at h
  split at h
  rename_i mark body hm
  split at h
  rename_i first inner hf
  split at h
  · rename_i hd
    injection h with h
    injection h with _ h
    subst h
    have h1 := cut inner
    rw [hd] at h1
    have h2 : inner.length ≤ body.length := by
      split at hf <;> (injection hf with _ hf; subst hf; simp)
    have h3 : body.length ≤ cs.length := by
      split at hm <;> (injection hm with _ hm; subst hm; simp)
    simp at h1
    omega
  · cases h

/-! ## Patterns -/

/-- The pattern that a text spells.  A bracket that is never closed stands for itself. -/
def ofChars : List Char → Glob
  | [] => []
  | '*' :: rest => .star :: ofChars rest
  | '?' :: rest => .any :: ofChars rest
  | c :: rest =>
    if c = '[' then
      match h : splitSet rest with
      | some (set, rest') =>
        have := length_splitSet_lt h
        setPiece set :: ofChars rest'
      | none => .oneOf false [(c, c)] :: ofChars rest
    else .oneOf false [(c, c)] :: ofChars rest
termination_by cs => cs.length

/-- The pattern that a text spells. -/
def ofText (s : String) : Glob := ofChars s.toList

/-- Whether a piece for one character matches it. -/
def admits : Piece → Char → Bool
  | .star, _ => false
  | .any, _ => true
  | .oneOf outside ranges, c => outside != ranges.any fun r => r.1 ≤ c && c ≤ r.2

/-- All ends of a text, the longest first. -/
def ends : List Char → List (List Char)
  | [] => [[]]
  | c :: rest => (c :: rest) :: ends rest

/-- The rests that a piece leaves of some rests, the longest first. -/
def step (rests : List (List Char)) (p : Piece) : List (List Char) :=
  match p with
  | .star =>
    match rests with
    | [] => []
    | longest :: _ => ends longest
  | p =>
    rests.filterMap fun
      | [] => none
      | c :: rest => if admits p c then some rest else none

/-- Whether a pattern covers a text. -/
def covers (g : Glob) (s : String) : Bool := (g.foldl step [s.toList]).contains []

end Glob

end Standin.Text
