/-
Annotations that make a binding final.

An annotation may be written as a text; then what the text says is looked at, as
far as it can be read.
-/
import Standin.Source.Parser
import Standin.Source.Writer
import Standin.Text.Blank

set_option autoImplicit false

namespace Standin

open Source

/-- A text that stands in an annotation, without blanks around it, as an expression. -/
def readHint (s : String) : Except ReadError Expr := readExpression (Text.strip s)

/-- Code points without the blanks at either end. -/
def stripCodes (codes : List Nat) : List Nat :=
  let blank (n : Nat) : Bool := decide n.isValidChar && Text.isBlank (Char.ofNat n)
  ((codes.dropWhile blank).reverse.dropWhile blank).reverse

/-- Whether the code point is a surrogate. -/
def isSurrogate (n : Nat) : Bool := 0xd800 ≤ n && n < 0xe000

/-- The error of reading a text with surrogates: the first of them, and where its run begins and
ends. -/
def surrogateError (codes : List Nat) : ReadError :=
  let codes := stripCodes codes
  let before := codes.takeWhile (!isSurrogate ·)
  let run := (codes.drop before.length).takeWhile isSurrogate
  .surrogates (run.headD 0) before.length (before.length + run.length - 1)

/-- What an annotation says: of a text that can be read, its content.  A text that cannot be read
says nothing. -/
def hintContent : Expr → Except ReadError (Option Expr)
  | .constant (.text s) _ _ =>
    match readHint s with
    | .ok e => .ok (some e)
    | .error .malformed => .ok none
    | .error e => .error e
  | .constant (.surrogates codes) _ _ => .error (surrogateError codes)
  | e => .ok (some e)

/-- The name of the qualifier for final bindings. -/
def finalName : String := "Final"

/-- Whether the expression is `Final` or an attribute of that name. -/
def isFinalName : Expr → Bool
  | .name id _ _ => id == finalName
  | .attribute _ attr _ _ => attr == finalName
  | _ => false

/-- Whether the expression is the final qualifier, alone or with a type in brackets. -/
def isFinalForm : Expr → Bool
  | .subscript e _ _ _ => isFinalName e
  | e => isFinalName e

/-- Whether an annotation declares its binding final. -/
def isFinalHint (hint : Expr) : Except ReadError Bool := do
  match ← hintContent hint with
  | some e => return isFinalForm e
  | none => return false

/-- Why the type in a final annotation cannot be given. -/
inductive HintError where
  | unreadable (e : ReadError)
  | unwritable (e : WriteError)
  deriving DecidableEq, Repr

/-- A type that is given by an annotation: a part of it, or a text that is written anew. -/
inductive GivenType where
  | part (e : Expr)
  | text (s : String)

/-- The type as an expression; a new text stands at `span`. -/
def GivenType.expr (span : Span) : GivenType → Expr
  | .part e => e
  | .text s => .constant (.text s) false span

/-- The type inside a final annotation, or nothing for the bare qualifier.  The type from a text
is given as a text again.  A text can hold no text as long as itself, so `fuel` beyond its length
is enough. -/
def innerType : Nat → Expr → Except HintError (Option GivenType)
  | 0, _ => .ok none
  | fuel + 1, hint =>
    match hint with
    | .constant (.text s) _ _ =>
      match readHint s with
      -- Unlike the question whether it is final, this one has no answer for what cannot be read.
      | .error e => .error (.unreadable e)
      | .ok content =>
        match innerType fuel content with
        | .error e => .error e
        | .ok none => .ok none
        | .ok (some inner) =>
          -- Where the type stands is no part of its text.
          match (inner.expr default).text with
          | .error e => .error (.unwritable e)
          | .ok text => .ok (some (.text text))
    | .constant (.surrogates codes) _ _ => .error (.unreadable (surrogateError codes))
    | .subscript _ slice _ _ => .ok (some (.part slice))
    | _ => .ok none

/-- The number of characters of an annotation that is a text. -/
def hintLength : Expr → Nat
  | .constant (.text s) _ _ => s.length
  | _ => 0

/-- The type inside a final annotation, or nothing for the bare qualifier. -/
def typeInFinal (hint : Expr) : Except HintError (Option GivenType) :=
  innerType (hintLength hint + 2) hint

end Standin
