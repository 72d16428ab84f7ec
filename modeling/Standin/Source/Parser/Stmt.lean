/-
The grammar of statements.

A simple statement is one line or a part of one; a compound statement holds
blocks, which the parser for blocks one step further in reads.
-/
import Standin.Source.Parser.Pattern

set_option autoImplicit false

namespace Standin.Source

open Standin.Source.Parser

section Simple

variable (r : Rules)

/-- The operator of an augmented assignment. -/
def augmentedOp? : Lexeme → Option BinaryOp
  | .sign .plusEqual => some .add
  | .sign .minusEqual => some .sub
  | .sign .starEqual => some .mul
  | .sign .atEqual => some .matMul
  | .sign .slashEqual => some .div
  | .sign .percentEqual => some .mod
  | .sign .ampersandEqual => some .bitAnd
  | .sign .barEqual => some .bitOr
  | .sign .caretEqual => some .bitXor
  | .sign .shiftLeftEqual => some .shiftLeft
  | .sign .shiftRightEqual => some .shiftRight
  | .sign .doubleStarEqual => some .pow
  | .sign .doubleSlashEqual => some .floorDiv
  | _ => none

/-- Whether the expression is a name. -/
def Expr.isName : Expr → Bool
  | .name _ _ _ => true
  | _ => false

/-- The rest of an assignment whose targets, last one first, are read: each further `=` makes the
expression before it another target. -/
def assignRest (start : Place) (targets : List Expr) : Nat → Parser Stmt
  | 0 => reject
  | rounds + 1 => do
    sign .equal
    let e ← yieldOrExpressions r
    if ← nextIsSign .equal then
      match e.asStored? with
      | some t => assignRest start (t :: targets) rounds
      | none => reject
    else return .assign targets.reverse e (← spanFrom start)

/-- An expression, or an assignment of any kind. -/
def expressionStatement : Parser Stmt := do
  let start ← here
  let beginsWithName := match ← peek with | .name _ _ => true | _ => false
  let e ← yieldOrExpressions r
  let next ← peek
  match next with
  | .sign .equal =>
    match e.asStored? with
    | some t => assignRest r start [t] r.rounds
    | none => reject
  | .sign .colon =>
    match e.asSingle? with
    | none => reject
    | some t =>
      sign .colon
      let hint ← r.expression
      let value ← if ← signIfNext .equal then some <$> yieldOrExpressions r else pure none
      -- `(a): int` annotates the name but does not count as its declaration.
      return .annAssign t hint value (beginsWithName && t.isName) (← spanFrom start)
  | _ =>
    match augmentedOp? next with
    | none => return .expr e (← spanFrom start)
    | some op =>
      match e.asSingle? with
      | none => reject
      | some t =>
        let _ ← token
        let value ← yieldOrExpressions r
        return .augAssign t op value (← spanFrom start)

/-- A name with dots, as text. -/
def dottedText (rounds : Nat) : Parser String := do
  let parts ← separated .dot name rounds
  return ".".intercalate parts

/-- The name that `as` gives, if one is given. -/
def asName? : Parser (Option String) := do
  if ← wordIfNext .as then some <$> name else pure none

/-- A module of an `import`. -/
def importedModule : Parser Alias := do
  let start ← here
  let id ← dottedText r.rounds
  let asName ← asName?
  return ⟨id, asName, ← spanFrom start⟩

/-- A name of a `from ... import`. -/
def importedName : Parser Alias := do
  let start ← here
  let id ← name
  let asName ← asName?
  return ⟨id, asName, ← spanFrom start⟩

/-- The dots before the module of a `from`. -/
def leadingDots : Parser Nat := do
  let dots ← many (do
    match (← token).lexeme with
    | .sign .dot => return 1
    -- Three dots in a row are one token.
    | .sign .ellipsis => return 3
    | _ => reject) r.rounds
  return dots.foldl Nat.add 0

/-- The names of a `from ... import`: all of them, a list, or a list in parentheses. -/
def importedNames : Parser (List Alias) := do
  let start ← here
  if ← signIfNext .star then return [⟨"*", none, ← spanFrom start⟩]
  if ← signIfNext .openParen then
    let names ← commaList importedName r.rounds
    sign .closeParen
    return names
  else separated .comma importedName r.rounds

/-- A `from ... import`. -/
def importFromStatement : Parser Stmt := do
  let start ← here
  word .from
  let level ← leadingDots r
  let module ←
    if ← nextIsWord .importing then
      if level = 0 then reject else pure none
    else some <$> dottedText r.rounds
  word .importing
  let names ← importedNames r
  return .importFrom module names level (← spanFrom start)

/-- One target of a `del`. -/
def deletedTarget : Parser Expr := do ofOption (← r.primary).asDeleted?

/-- A statement that is a part of a line. -/
def simpleStatement : Parser Stmt := do
  let start ← here
  match ← peek with
  | .reserved .pass =>
    word .pass
    return .pass (← spanFrom start)
  | .reserved .break =>
    word .break
    return .break (← spanFrom start)
  | .reserved .continue =>
    word .continue
    return .continue (← spanFrom start)
  | .reserved .return =>
    word .return
    let value ← attempt (starExpressions r)
    return .ret value (← spanFrom start)
  | .reserved .importing =>
    word .importing
    let names ← separated .comma (importedModule r) r.rounds
    return .importModules names (← spanFrom start)
  | .reserved .from => importFromStatement r
  | .reserved .raise =>
    word .raise
    match ← attempt r.expression with
    | none => return .raise none none (← spanFrom start)
    | some exc =>
      let cause ← if ← wordIfNext .from then some <$> r.expression else pure none
      return .raise (some exc) cause (← spanFrom start)
  | .reserved .del =>
    word .del
    let targets ← commaList (deletedTarget r) r.rounds
    return .delete targets (← spanFrom start)
  | .reserved .assert =>
    word .assert
    let test ← r.expression
    let message ← if ← signIfNext .comma then some <$> r.expression else pure none
    return .assert test message (← spanFrom start)
  | .reserved .global =>
    word .global
    let names ← separated .comma name r.rounds
    return .global names (← spanFrom start)
  | .reserved .nonlocal =>
    word .nonlocal
    let names ← separated .comma name r.rounds
    return .nonlocal names (← spanFrom start)
  | _ => expressionStatement r

/-- A line of simple statements. -/
def simpleStatements : Parser (List Stmt) := do
  let statements ← separated .semicolon (simpleStatement r) r.rounds
  let _ ← signIfNext .semicolon
  lexeme .newline
  return statements

end Simple

section Compound

variable (r : Rules) (block : Parser (List Stmt))

/-- The block after a word and a colon. -/
def labelled (w : Reserved) : Parser (List Stmt) := do
  word w
  sign .colon
  block

/-- The block of an `else`, if there is one. -/
def elseBlock : Parser (List Stmt) := do
  if ← nextIsWord .else then labelled block .else else return []

/-- An `if` or `elif`, with all branches after it. -/
def ifFrom (w : Reserved) : Nat → Parser Stmt
  | 0 => reject
  | rounds + 1 => do
    let start ← here
    word w
    let test ← namedExpression r
    sign .colon
    let body ← block
    let orElse ← if ← nextIsWord .elif then do
        let nested ← ifFrom .elif rounds
        pure [nested]
      else elseBlock block
    return .if test body orElse (← spanFrom start)

/-- A `while`. -/
def whileStatement : Parser Stmt := do
  let start ← here
  word .while
  let test ← namedExpression r
  sign .colon
  let body ← block
  let orElse ← elseBlock block
  return .while test body orElse (← spanFrom start)

/-- A `for`, from the place where an `async` before it starts. -/
def forStatement (start : Place) (isAsync : Bool) : Parser Stmt := do
  word .for
  let target ← starTargets r
  word .in
  let iter ← starExpressions r
  sign .colon
  let body ← block
  let orElse ← elseBlock block
  return .for isAsync target iter body orElse (← spanFrom start)

/-- A context manager of a `with`. -/
def withItem : Parser WithItem := do
  let context ← r.expression
  if ← wordIfNext .as then
    let target ← starTarget r
    match ← peek with
    | .sign .comma | .sign .closeParen | .sign .colon => return ⟨context, some target⟩
    | _ => reject
  else return ⟨context, none⟩

/-- The context managers of a `with`, which may stand in parentheses, up to the colon. -/
def withItems : Parser (List WithItem) := do
  let inParentheses : Parser (List WithItem) := do
    sign .openParen
    let items ← commaList (withItem r) r.rounds
    sign .closeParen
    sign .colon
    return items
  -- Parentheses are around all items, or else they belong to the first, as in `with (a), b:`.
  match ← attempt inParentheses with
  | some items => return items
  | none =>
    let items ← separated .comma (withItem r) r.rounds
    sign .colon
    return items

/-- A `with`, from the place where an `async` before it starts. -/
def withStatement (start : Place) (isAsync : Bool) : Parser Stmt := do
  word .with
  let items ← withItems r
  let body ← block
  return .with isAsync items body (← spanFrom start)

/-- An `except`, or an `except*` for a group. -/
def handler (isGroup : Bool) : Parser Handler := do
  let start ← here
  word .except
  if isGroup then sign .star
  let type ← if ← nextIsSign .colon then
      if isGroup then reject else pure none
    else some <$> r.expression
  let id ← if type.isSome then asName? else pure none
  sign .colon
  let body ← block
  return ⟨type, id, body, ← spanFrom start⟩

/-- A `try`. -/
def tryStatement : Parser Stmt := do
  let start ← here
  let body ← labelled block .try
  let isGroup := match ← peek, ← peekSecond with
    | .reserved .except, .sign .star => true
    | _, _ => false
  let handlers ← many (handler r block isGroup) r.rounds
  let orElse ← if handlers.isEmpty then pure [] else elseBlock block
  let final ← if ← nextIsWord .finally then some <$> labelled block .finally else pure none
  if handlers.isEmpty && final.isNone then reject
  return .try isGroup body handlers orElse (final.getD []) (← spanFrom start)

/-- A function, from the place where an `async` before it starts. -/
def functionStatement (start : Place) (isAsync : Bool) (decorators : List Expr) : Parser Stmt := do
  word .define
  let id ← name
  sign .openParen
  let params ← parameters r true
  sign .closeParen
  let returns ← if ← signIfNext .arrow then some <$> r.expression else pure none
  sign .colon
  let body ← block
  return .function isAsync id params body decorators returns (← spanFrom start)

/-- A class. -/
def classStatement (decorators : List Expr) : Parser Stmt := do
  let start ← here
  word .classWord
  let id ← name
  let args ← if ← signIfNext .openParen then
      let args ← arguments r
      sign .closeParen
      pure args
    else pure []
  sign .colon
  let body ← block
  return .classDef id (positionalArguments args) (keywordArguments args) body decorators
    (← spanFrom start)

/-- A decorator on its line. -/
def decorator : Parser Expr := do
  sign .at
  let e ← namedExpression r
  lexeme .newline
  return e

/-- A function or class with its decorators. -/
def decorated : Parser Stmt := do
  let decorators ← many (decorator r) r.rounds
  -- The statement itself starts after its decorators.
  let start ← here
  match ← peek with
  | .reserved .classWord => classStatement r block decorators
  | .reserved .async =>
    word .async
    functionStatement r block start true decorators
  | _ => functionStatement r block start false decorators

/-- A statement that begins with `async`. -/
def asyncStatement : Parser Stmt := do
  let start ← here
  word .async
  match ← peek with
  | .reserved .for => forStatement r block start true
  | .reserved .with => withStatement r block start true
  | _ => functionStatement r block start true []

/-- A `case`. -/
def matchCase : Parser MatchCase := do
  softWord "case"
  let p ← openPattern r
  let guard ← if ← wordIfNext .if then some <$> namedExpression r else pure none
  sign .colon
  let body ← block
  return ⟨p, guard, body⟩

/-- A `match`. -/
def matchStatement : Parser Stmt := do
  let start ← here
  softWord "match"
  let subject ← tupleOf r (starredOrNamed r)
  if subject.isStarred then reject
  sign .colon
  lexeme .newline
  lexeme .indent
  let cases ← many₁ (matchCase r block) r.rounds
  lexeme .dedent
  return .match subject cases (← spanFrom start)

/-- A compound statement, or a line of simple ones. -/
def statements : Parser (List Stmt) := do
  let start ← here
  match ← peek with
  | .reserved .if => return [← ifFrom r block .if r.rounds]
  | .reserved .while => return [← whileStatement r block]
  | .reserved .for => return [← forStatement r block start false]
  | .reserved .with => return [← withStatement r block start false]
  | .reserved .try => return [← tryStatement r block]
  | .reserved .define => return [← functionStatement r block start false []]
  | .reserved .classWord => return [← classStatement r block []]
  | .reserved .async => return [← asyncStatement r block]
  | .sign .at => return [← decorated r block]
  -- `match` is no reserved word: where no such statement can be read it is a name.
  | .name "match" true =>
    match ← attempt (matchStatement r block) with
    | some s => return [s]
    | none => simpleStatements r
  | _ => simpleStatements r

end Compound

/-- A block nested no deeper than so many steps: indented lines, or the rest of the line. -/
def block (r : Rules) : Nat → Parser (List Stmt)
  | 0 => reject
  | depth + 1 => do
    if ← nextIs .newline then
      lexeme .newline
      lexeme .indent
      let groups ← many₁ (statements r (block r depth)) r.rounds
      lexeme .dedent
      return groups.flatten
    else simpleStatements r

/-- A whole module. -/
def moduleBody (r : Rules) : Parser Module := do
  let groups ← many (statements r (block r r.rounds)) r.rounds
  lexeme .finish
  return ⟨groups.flatten⟩

/-- A whole text that is one expression. -/
def wholeExpression (r : Rules) : Parser Expr := do
  let e ← expressions r
  let _ ← many (lexeme .newline) r.rounds
  lexeme .finish
  return e

end Standin.Source
