/-
Parsers over tokens.

A parser reads tokens from the front of what is left, or fails and has read
nothing; a failure says no more than that the tokens have not the wanted form.
That it reads one token after another is part of what a parser is, so that no
production has to be asked for it.  Repetition is bounded by a number of rounds,
for which the number of tokens that are left is always enough, since each round
reads at least one.
-/
import Standin.Source.Token

set_option autoImplicit false

namespace Standin.Source

/-- What is left to read, and where the last token that covers text ended. -/
structure Cursor where
  tokens : List Token
  last : Place
  deriving Inhabited

namespace Cursor

/-- The lexeme that comes next; at the end of all tokens it is `finish`. -/
def next (c : Cursor) : Lexeme :=
  match c.tokens with
  | t :: _ => t.lexeme
  | [] => .finish

/-- The lexeme after the next one. -/
def second (c : Cursor) : Lexeme :=
  match c.tokens with
  | _ :: t :: _ => t.lexeme
  | _ => .finish

/-- Where the next token starts. -/
def start (c : Cursor) : Place :=
  match c.tokens with
  | t :: _ => t.span.start
  | [] => c.last

/-- The cursor after the token `t`, when `rest` is left. -/
def past (c : Cursor) (t : Token) (rest : List Token) : Cursor :=
  ⟨rest, if t.isLayout then c.last else t.span.stop⟩

/-- That one cursor comes from another by reading tokens from the front. -/
inductive Reads : Cursor → Cursor → Prop
  | refl (c : Cursor) : Reads c c
  | token {c c' : Cursor} {t : Token} {rest : List Token} (h : c.tokens = t :: rest)
    (hrest : Reads (c.past t rest) c') : Reads c c'

theorem Reads.trans {c c' c'' : Cursor} (h : c.Reads c') (h' : c'.Reads c'') : c.Reads c'' := by
  induction h with
  | refl c => exact h'
  | token htokens _ ih => exact .token htokens (ih h')

theorem Reads.one {c : Cursor} {t : Token} {rest : List Token} (h : c.tokens = t :: rest) :
    c.Reads (c.past t rest) := .token h (.refl _)

end Cursor

/-- A parser for a value of type `α`: what it makes of a cursor, which it only moves on. -/
structure Parser (α : Type) where
  run : Cursor → Option (α × Cursor)
  reads : ∀ {c a c'}, run c = some (a, c') → c.Reads c'

namespace Parser

variable {α β : Type}

instance : Monad Parser where
  pure a := ⟨fun c => some (a, c), by
    rintro c b c' ⟨⟩
    exact .refl c⟩
  bind p f := ⟨fun c => (p.run c).bind fun (a, c') => (f a).run c', by
    intro c b c'' h
    obtain ⟨⟨a, c'⟩, ha, hb⟩ := Option.bind_eq_some_iff.mp h
    exact (p.reads ha).trans ((f a).reads hb)⟩

/-- A parser that looks at the cursor and reads nothing. -/
def look (f : Cursor → α) : Parser α := ⟨fun c => some (f c, c), by
  rintro c a c' ⟨⟩
  exact .refl c⟩

/-- The parser that accepts nothing. -/
def reject : Parser α := ⟨fun _ => none, nofun⟩

/-- The lexeme that comes next. -/
def peek : Parser Lexeme := look Cursor.next

/-- The lexeme after the next one. -/
def peekSecond : Parser Lexeme := look Cursor.second

/-- The parser that gives a value that is there, and reads nothing. -/
def ofOption : Option α → Parser α
  | some a => pure a
  | none => reject

/-- The next token. -/
def token : Parser Token where
  run c :=
    match c.tokens with
    | [] => none
    | t :: rest => some (t, c.past t rest)
  reads {c a c'} h := by
    split at h
    · cases h
    · next t rest htokens =>
      cases h
      exact .one htokens

/-- Where the next token starts. -/
def here : Parser Place := look Cursor.start

/-- The stretch from `start` to the end of the last token read. -/
def spanFrom (start : Place) : Parser Span := look fun c => ⟨start, c.last⟩

/-- Reads exactly this lexeme. -/
def lexeme (l : Lexeme) : Parser Unit := do
  let t ← token
  if t.lexeme = l then return else reject

/-- Reads a sign. -/
def sign (s : Sign) : Parser Unit := lexeme (.sign s)

/-- Reads a reserved word. -/
def word (w : Reserved) : Parser Unit := lexeme (.reserved w)

/-- Reads a word that is reserved only where it is expected, such as `match`. -/
def softWord (w : String) : Parser Unit := lexeme (.name w true)

/-- Whether the next token is this lexeme. -/
def nextIs (l : Lexeme) : Parser Bool := do return (← peek) = l

/-- Whether the next token is this sign. -/
def nextIsSign (s : Sign) : Parser Bool := nextIs (.sign s)

/-- Whether the next token is this reserved word. -/
def nextIsWord (w : Reserved) : Parser Bool := nextIs (.reserved w)

/-- Reads a sign if it comes next, and says whether it did. -/
def signIfNext (s : Sign) : Parser Bool := do
  if ← nextIsSign s then
    sign s
    return true
  else return false

/-- Reads a reserved word if it comes next, and says whether it did. -/
def wordIfNext (w : Reserved) : Parser Bool := do
  if ← nextIsWord w then
    word w
    return true
  else return false

/-- Reads a name. -/
def name : Parser String := do
  match (← token).lexeme with
  | .name id _ => return id
  | _ => reject

/-- Tries a parser; if it fails, nothing is read. -/
def attempt (p : Parser α) : Parser (Option α) where
  run c :=
    match p.run c with
    | some (a, c') => some (some a, c')
    | none => some (none, c)
  reads {c a c'} h := by
    split at h
    · next b c'' hb =>
      cases h
      exact p.reads hb
    · cases h
      exact .refl _

/-- Runs a parser as often as it succeeds, in at most so many rounds. -/
def many (p : Parser α) : Nat → Parser (List α)
  | 0 => pure []
  | rounds + 1 => do
    match ← attempt p with
    | none => return []
    | some a => return a :: (← many p rounds)

/-- One or more phrases. -/
def many₁ (p : Parser α) (rounds : Nat) : Parser (List α) := do
  let a ← p
  let as ← many p rounds
  return a :: as

/-- One or more phrases with a sign between them. -/
def separated (s : Sign) (p : Parser α) (rounds : Nat) : Parser (List α) := do
  let a ← p
  let as ← many (do sign s; p) rounds
  return a :: as

/-- One or more phrases with commas between them and possibly one after the last. -/
def commaList (p : Parser α) (rounds : Nat) : Parser (List α) := do
  let as ← separated .comma p rounds
  let _ ← signIfNext .comma
  return as

/-- Extends a phrase on its right as long as `extend` succeeds, in at most so many rounds. -/
def extendLeft (extend : α → Parser α) : Nat → α → Parser α
  | 0, a => pure a
  | rounds + 1, a => do
    match ← attempt (extend a) with
    | none => return a
    | some a => extendLeft extend rounds a

end Parser

end Standin.Source
