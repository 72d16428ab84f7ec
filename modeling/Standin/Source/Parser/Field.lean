/-
String literals with replacement fields.

The characters between the quotes are a sequence of literal stretches and fields
in braces; a brace that is written twice stands for itself.  A field holds an
expression, which this file only delimits, and after it perhaps a conversion and
a format, which may again hold fields, but those no further ones.
-/
import Standin.Source.Token
import Standin.Source.Escape

set_option autoImplicit false

namespace Standin.Source.Field

/-- How a literal stretch ends. -/
inductive Ending where
  | doubled
  | opened
  | closed
  | finished
  deriving DecidableEq, Repr

/-- The characters of `\N{...}` after the `N`, as they stand in a literal stretch, and the rest:
braces around a name open no field. -/
def afterNameMark : List Char → List Char × List Char
  | '\x7b' :: rest =>
    let name := rest.takeWhile (· != '\x7d')
    match rest.dropWhile (· != '\x7d') with
    | close :: rest => ('\x7b' :: name ++ [close], rest)
    | [] => ('\x7b' :: name, [])
  | c :: rest => ([c], rest)
  | [] => ([], [])

/-- What an open or closing brace at the head of a literal stretch means.  Inside a format braces
cannot be doubled. -/
def braceEnding (inFormat : Bool) (brace : Char) (rest : List Char) : Option Ending :=
  if !inFormat && rest.head? = some brace then some .doubled
  else if brace = '\x7b' then some .opened
  else if inFormat then some .closed
  else none

/-- The literal stretch at the head of a text, as it is written; how it ends; and the rest, which
begins with the brace that ends it, if one does, and after both of a doubled one. -/
def literal (raw inFormat : Bool) :
    Nat → List Char → Option (List Char × Ending × List Char)
  | 0, _ => none
  | _, [] => some ([], .finished, [])
  | fuel + 1, c :: rest =>
    let stretch (cs : List Char) (rest : List Char) :=
      (literal raw inFormat fuel rest).map fun (more, e, rest) => (cs ++ more, e, rest)
    let atBrace (before : List Char) (brace : Char) (rest : List Char) :=
      (braceEnding inFormat brace rest).map fun e =>
        if e = .doubled then (before ++ [brace], e, rest.drop 1)
        else (before, e, brace :: rest)
    if c = '\x7b' ∨ c = '\x7d' then atBrace [] c rest
    else if c = '\\' ∧ !raw then
      match rest with
      | [] => some ([c], .finished, [])
      | d :: rest =>
        if d = '\x7b' ∨ d = '\x7d' then atBrace [c] d rest
        else if d = 'N' then
          let (name, rest) := afterNameMark rest
          stretch (c :: d :: name) rest
        else stretch [c, d] rest
    else stretch [c] rest

/-- A string literal inside the expression of a field: its quote, and whether it is a long one. -/
structure Quoting where
  quote : Char
  long : Bool
  deriving DecidableEq, Repr

/-- Whether the bracket closes the other one. -/
def closes (opening closing : Char) : Bool :=
  (opening == '(' && closing == ')') || (opening == '[' && closing == ']') ||
    (opening == '\x7b' && closing == '\x7d')

/-- The expression at the head of a field, up to the sign that ends it: an exclamation mark, a
colon, an equals sign or a closing brace outside brackets and quotes, unless it begins a
comparison.  There may be no backslash in it and no comment. -/
def expression (brackets : List Char) (inside : Option Quoting) :
    List Char → Option (List Char × List Char)
  | [] => none
  | c :: rest =>
    let go (brackets : List Char) (inside : Option Quoting) :=
      (expression brackets inside rest).map fun (e, rest) => (c :: e, rest)
    if c = '\\' then none
    else match inside with
    | some q =>
      if c = q.quote then
        if q.long then
          match rest with
          | d₁ :: d₂ :: more =>
            if d₁ = c ∧ d₂ = c then
              (expression brackets none more).map fun (e, rest) => (c :: d₁ :: d₂ :: e, rest)
            else go brackets inside
          | _ => go brackets inside
        else go brackets none
      else go brackets inside
    | none =>
      if c = '\'' ∨ c = '"' then
        match rest with
        | d₁ :: d₂ :: more =>
          if d₁ = c ∧ d₂ = c then
            (expression brackets (some ⟨c, true⟩) more).map fun (e, rest) =>
              (c :: d₁ :: d₂ :: e, rest)
          else go brackets (some ⟨c, false⟩)
        | _ => go brackets (some ⟨c, false⟩)
      else if c = '(' ∨ c = '[' ∨ c = '\x7b' then
        if 200 ≤ brackets.length then none else go (c :: brackets) none
      else if c = '#' then none
      else if brackets.isEmpty ∧
          (c = '!' ∨ c = ':' ∨ c = '\x7d' ∨ c = '=' ∨ c = '<' ∨ c = '>') then
        match rest with
        | '=' :: more =>
          if c = '!' ∨ c = '=' ∨ c = '<' ∨ c = '>' then
            (expression brackets none more).map fun (e, rest) => (c :: '=' :: e, rest)
          else some ([], c :: rest)
        | _ => if c = '<' ∨ c = '>' then go brackets none else some ([], c :: rest)
      else if c = ')' ∨ c = ']' ∨ c = '\x7d' then
        match brackets with
        | [] => none
        | o :: outer => if closes o c then go outer none else none
      else go brackets none

/-- Whether the character is blank within an expression. -/
def isSpace (c : Char) : Bool := c == ' ' || c == '\t' || c == '\n' || c == '\x0c'

/-- Whether the character is a blank of ASCII, as they may follow the `=` of a field. -/
def isAsciiBlank (c : Char) : Bool := isSpace c || c == '\x0b' || c == '\r'

/-- What follows the expression of a field: the text that an `=` repeats before the value, and a
conversion. -/
structure Suffix where
  echo : Option (List Char)
  conversion : Option Conversion

/-- The conversion a letter names. -/
def conversion? : Char → Option Conversion
  | 's' => some .string
  | 'r' => some .quoted
  | 'a' => some .ascii
  | _ => none

/-- The text that an `=` after an expression repeats before the value, and what follows it. -/
def echoed (expr : List Char) : List Char → Option (List Char) × List Char
  | '=' :: rest =>
    (some (expr ++ '=' :: rest.takeWhile isAsciiBlank), rest.dropWhile isAsciiBlank)
  | cs => (none, cs)

/-- Reads what follows an expression, up to the colon of a format or the closing brace. -/
def suffix (expr : List Char) (cs : List Char) : Option (Suffix × List Char) := do
  let (echo, cs) := echoed expr cs
  match cs with
  | '!' :: letter :: rest =>
    let c ← conversion? letter
    some (⟨echo, some c⟩, rest)
  | '!' :: [] => none
  | _ => some (⟨echo, none⟩, cs)

end Standin.Source.Field
