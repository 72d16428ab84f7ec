/-
Tokens of a text.

The text is read once from left to right.  At the start of a line its
indentation is compared with the levels that are open, unless the line is blank
or stands inside brackets; after that tokens follow until the line ends.  Each
step reads at least one character or settles the start of a line, so twice the
length of the text bounds the number of steps.
-/
import Standin.Source.Token
import Standin.Source.Numeral
import Standin.Source.Escape
import Standin.Text.Identifier
import Standin.Text.Normal

set_option autoImplicit false

namespace Standin.Source

open Standin.Text (isIdentifier)

/-! ## Lines -/

/-- Line ends in their one form: a carriage return, alone or before a line feed, is a line feed. -/
def unifyLines : List Char → List Char
  | '\r' :: '\n' :: rest => '\n' :: unifyLines rest
  | '\r' :: rest => '\n' :: unifyLines rest
  | c :: rest => c :: unifyLines rest
  | [] => []

/-- The text with a line feed at its end. -/
def closeLastLine (cs : List Char) : List Char :=
  if cs.getLast? = some '\n' then cs else cs ++ ['\n']

namespace Lexer

/-! ## The pieces of a line -/

/-- Whether a name may go on with the character; those above `7f` are checked afterwards. -/
def isNameLike (c : Char) : Bool :=
  c.isAlphanum || c == '_' || 128 ≤ c.toNat

/-- Whether a name may begin with the character. -/
def beginsName (c : Char) : Bool :=
  c.isAlpha || c == '_' || 128 ≤ c.toNat

/-- The lexeme of a word. -/
def word? (cs : List Char) : Option Lexeme :=
  if cs.all (·.toNat < 128) then
    let id := String.ofList cs
    match Reserved.ofText? id with
    | some w => some (.reserved w)
    | none => some (.name id true)
  else if isIdentifier cs then
    let normal := Text.Normal.normalize cs
    some (.name (String.ofList normal) (normal == cs))
  else none

/-- The characters up to the closing quote of a literal on one line, and the rest after it. -/
def shortBody (quote : Char) : List Char → Option (List Char × List Char)
  | [] => none
  | '\\' :: c :: rest =>
    (shortBody quote rest).map fun (body, rest) => ('\\' :: c :: body, rest)
  | c :: rest =>
    if c = quote then some ([], rest)
    else if c = '\n' then none
    else (shortBody quote rest).map fun (body, rest) => (c :: body, rest)

/-- The characters up to the three closing quotes of a long literal, and the rest after them. -/
def longBody (quote : Char) : List Char → Option (List Char × List Char)
  | [] => none
  | '\\' :: c :: rest =>
    (longBody quote rest).map fun (body, rest) => ('\\' :: c :: body, rest)
  | c :: rest =>
    if c = quote ∧ [quote, quote].isPrefixOf rest then some ([], rest.drop 2)
    else (longBody quote rest).map fun (body, rest) => (c :: body, rest)

/-- The letters before the opening quote of a literal. -/
structure Marks where
  bytes : Bool := false
  raw : Bool := false
  fields : Bool := false
  unicode : Bool := false

/-- The marks that letters spell, if they do. -/
def marks? (cs : List Char) : Option Marks :=
  match cs.map Char.toLower with
  | [] => some {}
  | ['b'] => some { bytes := true }
  | ['r'] => some { raw := true }
  | ['f'] => some { fields := true }
  | ['u'] => some { unicode := true }
  | ['b', 'r'] | ['r', 'b'] => some { bytes := true, raw := true }
  | ['f', 'r'] | ['r', 'f'] => some { fields := true, raw := true }
  | _ => none

/-- Whether the character is one of the two quotes. -/
def isQuote (c : Char) : Bool := c == '\'' || c == '"'

/-- The marks, quote and rest of a text that begins with a string literal. -/
def stringHead? (cs : List Char) : Option (List Char × Char × List Char) :=
  match cs with
  | q :: rest =>
    if isQuote q then some ([], q, rest)
    else match rest with
    | q₂ :: rest₂ =>
      if isQuote q₂ then (marks? [q]).map fun _ => ([q], q₂, rest₂)
      else match rest₂ with
      | q₃ :: rest₃ =>
        if isQuote q₃ then (marks? [q, q₂]).map fun _ => ([q, q₂], q₃, rest₃) else none
      | [] => none
    | [] => none
  | [] => none

/-- What a string literal is, given its marks, the number of characters before its body, and its
body. -/
def piece? (m : Marks) (opening : Nat) (body : List Char) : Option StringPiece :=
  if m.fields then some (.fields m.raw opening body)
  else if m.bytes then (Escape.decodeBytes m.raw body).map .bytes
  else (Escape.decodeText m.raw body).map .text

/-- The string literal whose marks and first quote are already read: its lexeme, its characters
from the first mark on, and the rest. -/
def string? (letters : List Char) (quote : Char) (rest : List Char) :
    Option (Lexeme × List Char × List Char) := do
  let m ← marks? letters
  let marked := letters == ['u']
  if [quote, quote].isPrefixOf rest then
    let (body, rest) ← longBody quote (rest.drop 2)
    let quotes := [quote, quote, quote]
    let piece ← piece? m (letters.length + 3) body
    some (.string piece marked, letters ++ quotes ++ body ++ quotes, rest)
  else
    let (body, rest) ← shortBody quote rest
    let piece ← piece? m (letters.length + 1) body
    some (.string piece marked, letters ++ quote :: body ++ [quote], rest)

/-- The lexeme at the head of a text that begins with neither a blank, a comment, a line end nor a
backslash; its characters; and the rest. -/
def lexeme? (cs : List Char) : Option (Lexeme × List Char × List Char) :=
  match stringHead? cs with
  | some (letters, quote, rest) => string? letters quote rest
  | none =>
    match cs with
    | [] => none
    | c :: rest =>
      if beginsName c then
        let w := cs.takeWhile isNameLike
        (word? w).map fun l => (l, w, cs.dropWhile isNameLike)
      else if c.isDigit || (c == '.' && rest.head?.any Char.isDigit) then
        (Numeral.read cs).map fun (v, rest) =>
          (.number v, cs.take (cs.length - rest.length), rest)
      else
        (Sign.atHead? cs).map fun (spelling, s) =>
          (.sign s, spelling, cs.drop spelling.length)

/-! ## Indentation -/

/-- The depth of an indentation: a tab goes to the next multiple of eight, or counts as one place;
the two readings must agree on which line is deeper. -/
structure Depth where
  wide : Nat
  narrow : Nat
  deriving DecidableEq, Repr, Inhabited

/-- The indentation at the head of a line.  After a backslash it goes on with the next line, but
the depth reached before the first of them, if any, is what counts. -/
def indentation (d : Depth) (fixed : Nat) (p : Place) :
    List Char → Option (Depth × Nat × Place × List Char)
  | ' ' :: rest => indentation ⟨d.wide + 1, d.narrow + 1⟩ fixed (p.after ' ') rest
  | '\t' :: rest => indentation ⟨(d.wide / 8 + 1) * 8, d.narrow + 1⟩ fixed (p.after '\t') rest
  | '\x0c' :: rest => indentation ⟨0, 0⟩ fixed (p.after '\x0c') rest
  | '\\' :: '\n' :: c :: rest =>
    indentation d (if fixed = 0 then d.wide else fixed) ⟨p.line + 1, 0⟩ (c :: rest)
  | '\\' :: _ => none
  | cs => some (d, fixed, p, cs)

/-- The greatest number of levels of indentation, the outermost one included. -/
def maxLevels : Nat := 100

/-- The greatest number of brackets that may be open. -/
def maxBrackets : Nat := 200

/-- The state of reading: the text that is left and its place; the open levels of indentation and
the open brackets, innermost first; whether a line starts here; whether the line is blank so far;
and the tokens, last one first. -/
structure State where
  rest : List Char
  place : Place
  levels : List Depth
  brackets : List Sign
  atStart : Bool
  blank : Bool
  tokens : List Token

/-- Adds a token that covers no text. -/
def State.mark (s : State) (l : Lexeme) : State :=
  { s with tokens := ⟨l, ⟨s.place, s.place⟩⟩ :: s.tokens }

/-- Closes the levels that are deeper than `d`; the next one must be exactly as deep. -/
def State.closeLevels (s : State) (d : Depth) : List Depth → Option State
  | [] => none
  | [_] => if d.wide = 0 ∧ d.narrow = 0 then some { s with levels := [⟨0, 0⟩] } else none
  | top :: below :: more =>
    if d.wide < top.wide then (s.mark .dedent).closeLevels d (below :: more)
    else if d = top then some { s with levels := top :: below :: more }
    else none

/-- Settles the start of a line. -/
def State.startLine (s : State) : Option State := do
  let (d, fixed, place, rest) ← indentation ⟨0, 0⟩ 0 s.place s.rest
  let blank := match rest with
    | '#' :: _ | '\n' :: _ => true
    | _ => false
  let s := { s with rest := rest, place := place, atStart := false, blank := blank }
  -- Neither a blank line nor one inside brackets says anything about levels.
  if blank || !s.brackets.isEmpty then some s
  else
    let d := if fixed = 0 then d else ⟨fixed, fixed⟩
    let top := s.levels.headD ⟨0, 0⟩
    if d.wide = top.wide then (if d.narrow = top.narrow then some s else none)
    else if top.wide < d.wide then
      if maxLevels ≤ s.levels.length ∨ d.narrow ≤ top.narrow then none
      else some { s.mark .indent with levels := d :: s.levels }
    else s.closeLevels d s.levels

/-- The bracket that closes an opening one. -/
def closing? : Sign → Option Sign
  | .openParen => some .closeParen
  | .openBracket => some .closeBracket
  | .openBrace => some .closeBrace
  | _ => none

/-- The open brackets after a lexeme, unless it closes what is not open or opens too many. -/
def trackBrackets (l : Lexeme) (open_ : List Sign) : Option (List Sign) :=
  match l with
  | .sign s =>
    match s with
    | .openParen | .openBracket | .openBrace =>
      if maxBrackets ≤ open_.length then none else some (s :: open_)
    | .closeParen | .closeBracket | .closeBrace =>
      match open_ with
      | [] => none
      | o :: outer => if closing? o = some s then some outer else none
    | _ => some open_
  | _ => some open_

/-- Whether the character separates tokens within a line. -/
def isSeparator (c : Char) : Bool := c == ' ' || c == '\t' || c == '\x0c'

/-- Reads on: the start of a line, the blanks before a token, a comment, the end of a line, or a
token. -/
def State.step (s : State) : Option State :=
  if s.atStart then s.startLine
  else match s.rest with
  | [] => some s
  | c :: rest =>
    if isSeparator c then some { s with rest := rest, place := s.place.after c }
    else if c = '#' then
      let comment := s.rest.takeWhile (· != '\n')
      some { s with
        rest := s.rest.dropWhile (· != '\n'), place := s.place.afterAll comment }
    else if c = '\n' then
      let s' := { s with rest := rest, place := s.place.after c, atStart := true }
      -- Only a line with a statement on it ends in a token.
      if s.blank || !s.brackets.isEmpty then some s'
      else some { s' with tokens := ⟨.newline, ⟨s.place, s.place⟩⟩ :: s.tokens }
    else if c = '\\' then
      match rest with
      | '\n' :: d :: more => some { s with rest := d :: more, place := ⟨s.place.line + 1, 0⟩ }
      | _ => none
    else do
      let (l, used, rest) ← lexeme? s.rest
      let brackets ← trackBrackets l s.brackets
      let stop := s.place.afterAll used
      some { s with
        rest := rest, place := stop, brackets := brackets
        tokens := ⟨l, ⟨s.place, stop⟩⟩ :: s.tokens }

/-- The tokens of the text once all of it is read: the open levels are closed at its end. -/
def State.finish (s : State) : Option (List Token) :=
  -- A bracket still open at the end is an error.
  if s.brackets.isEmpty then
    let s := (s.levels.drop 1).foldl (fun s _ => s.mark .dedent) s
    some (s.mark .finish).tokens.reverse
  else none

/-- Reads the whole text, in at most so many steps. -/
def State.run (s : State) : Nat → Option (List Token)
  | 0 => none
  | fuel + 1 =>
    if s.rest.isEmpty && !s.atStart then s.finish
    else match s.step with
    | none => none
    | some s => s.run fuel

end Lexer

/-- The tokens of a text that begins at the given place; `none` if some part of it is no token. -/
def tokenize (place : Place) (cs : List Char) : Option (List Token) :=
  Lexer.State.run
    { rest := cs, place := place, levels := [⟨0, 0⟩], brackets := [], atStart := true,
      blank := false, tokens := [] }
    (2 * cs.length + 3)

end Standin.Source
