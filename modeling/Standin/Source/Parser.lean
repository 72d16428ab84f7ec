/-
Reading modules and annotations.
-/
import Standin.Source.Parser.Stmt

set_option autoImplicit false

namespace Standin.Source

/-- Why a text cannot be read: it is no text of the language, it holds a character that no text of
it may hold, or some of its code points, from `first` to `last`, are surrogates. -/
inductive ReadError where
  | malformed
  | nullCharacter
  | surrogates (code first last : Nat)
  deriving DecidableEq, Repr

/-- The parser's result on the tokens of a text. -/
def readTokens {α : Type} (p : Rules → Parser α) (cs : List Char) : Except ReadError α :=
  match tokenize ⟨1, 0⟩ cs with
  | none => .error .malformed
  | some tokens =>
    match (p (rulesFor tokens cs)).run ⟨tokens, ⟨1, 0⟩⟩ with
    | some (a, _) => .ok a
    | none => .error .malformed

/-- Reads a module. -/
def readModule (source : String) : Except ReadError Module :=
  let cs := source.toList
  if cs.contains '\x00' then .error .nullCharacter
  else readTokens moduleBody (closeLastLine (unifyLines cs))

/-- Reads a text that is one expression. -/
def readExpression (source : String) : Except ReadError Expr :=
  let cs := source.toList
  if cs.contains '\x00' then .error .nullCharacter
  else readTokens wholeExpression (unifyLines cs)

end Standin.Source
