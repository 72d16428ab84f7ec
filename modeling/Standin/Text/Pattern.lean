/-
Patterns of text, matched by trying.

A pattern is matched against what lies ahead of a place in a text.  A run takes
as many characters as it can and gives them back one by one if the rest of the
pattern does not match, so a pattern is found exactly when some way to take its
runs and alternatives lets all of it match.
-/
import Standin.Text.Word

set_option autoImplicit false

namespace Standin.Text

/-- A place in a text: the character before it, if there is one, and what lies ahead. -/
structure Spot where
  before : Option Char
  ahead : List Char
  deriving DecidableEq, Repr

/-- A pattern of text. -/
inductive Pattern where
  /-- One character of a class. -/
  | one (p : Char → Bool)
  /-- Any number of characters of a class. -/
  | run (p : Char → Bool)
  /-- The beginning of the text or of a line. -/
  | lineStart
  /-- The end of the text or of a line. -/
  | lineEnd
  /-- No character of a class comes next. -/
  | notNext (p : Char → Bool)
  /-- No character of a class stands before. -/
  | notAfter (p : Char → Bool)
  /-- A word begins or ends here. -/
  | boundary
  /-- One pattern and then another. -/
  | seq (a b : Pattern)
  /-- Either of two patterns, the first one if both are possible. -/
  | either (a b : Pattern)
  /-- A pattern, or nothing. -/
  | maybe (a : Pattern)

namespace Pattern

/-- The pattern of a given text. -/
def text : List Char → Pattern
  | [] => .run fun _ => false
  | [c] => .one (· == c)
  | c :: cs => .seq (.one (· == c)) (text cs)

/-- One pattern after another. -/
def all : List Pattern → Pattern
  | [] => .run fun _ => false
  | [a] => a
  | a :: as => .seq a (all as)

/-- Tries to go on with `k` after each number of leading characters of a class, the greatest
first. -/
def tryRun (p : Char → Bool) (k : Spot → Bool) : Option Char → List Char → Bool
  | before, [] => k ⟨before, []⟩
  | before, c :: rest => (p c && tryRun p k (some c) rest) || k ⟨before, c :: rest⟩

/-- Whether the pattern matches at a spot in a way that lets `k` accept what follows. -/
def matchThen : Pattern → (Spot → Bool) → Spot → Bool
  | .one p, k, ⟨_, ahead⟩ =>
    match ahead with
    | [] => false
    | c :: rest => p c && k ⟨some c, rest⟩
  | .run p, k, ⟨before, ahead⟩ => tryRun p k before ahead
  | .lineStart, k, s => (s.before.isNone || s.before == some '\n') && k s
  | .lineEnd, k, s => (s.ahead.isEmpty || s.ahead.head? == some '\n') && k s
  | .notNext p, k, s => !s.ahead.head?.any p && k s
  | .notAfter p, k, s => !s.before.any p && k s
  | .boundary, k, s => (s.before.any isWord != s.ahead.head?.any isWord) && k s
  | .seq a b, k, s => a.matchThen (b.matchThen k) s
  | .either a b, k, s => a.matchThen k s || b.matchThen k s
  | .maybe a, k, s => a.matchThen k s || k s

theorem matchThen_either {a b : Pattern} {k : Spot → Bool} {s : Spot} :
    (either a b).matchThen k s = true ↔ a.matchThen k s = true ∨ b.matchThen k s = true := by
  rw [matchThen, Bool.or_eq_true]

theorem matchThen_maybe {a : Pattern} {k : Spot → Bool} {s : Spot} :
    (maybe a).matchThen k s = true ↔ a.matchThen k s = true ∨ k s = true := by
  rw [matchThen, Bool.or_eq_true]

/-- Whether the pattern matches at the spot or at a later one. -/
def searchFrom (a : Pattern) : Option Char → List Char → Bool
  | before, [] => a.matchThen (fun _ => true) ⟨before, []⟩
  | before, c :: rest =>
    a.matchThen (fun _ => true) ⟨before, c :: rest⟩ || searchFrom a (some c) rest

/-- Whether the pattern occurs in a text. -/
def occursIn (a : Pattern) (s : String) : Bool := a.searchFrom none s.toList

end Pattern

end Standin.Text
