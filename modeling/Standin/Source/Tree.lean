/-
The syntax tree of a module.

Expressions, patterns and statements are three families of types, each using the
ones before it.  Every node that has a place in the text carries its `Span`.
The tree says what was written and not how: parentheses, comments and blanks are
gone, and an identifier is in its normal form.
-/
import Standin.Number.Binary64

set_option autoImplicit false

namespace Standin.Source

open Standin.Number (Binary64)

/-- A place in a text: a line, counted from 1, and a column, counted in bytes from 0. -/
structure Place where
  line : Nat
  col : Nat
  deriving DecidableEq, Repr, Inhabited

/-- The stretch of text that a node covers, from `start` up to but not including `stop`. -/
structure Span where
  start : Place
  stop : Place
  deriving DecidableEq, Repr, Inhabited

/-- What is done to a name, attribute, subscript or sequence of targets. -/
inductive Usage where
  | load
  | store
  | delete
  deriving DecidableEq, Repr, Inhabited

inductive BoolOp where
  | and
  | or
  deriving DecidableEq, Repr, Inhabited

inductive UnaryOp where
  | invert
  | not
  | plus
  | minus
  deriving DecidableEq, Repr, Inhabited

inductive BinaryOp where
  | add
  | sub
  | mul
  | matMul
  | div
  | mod
  | pow
  | shiftLeft
  | shiftRight
  | bitOr
  | bitXor
  | bitAnd
  | floorDiv
  deriving DecidableEq, Repr, Inhabited

inductive CompareOp where
  | eq
  | notEq
  | lt
  | le
  | gt
  | ge
  | is
  | isNot
  | isIn
  | notIn
  deriving DecidableEq, Repr, Inhabited

/-- The value of a literal.  A text that an escape gives a surrogate is no sequence of characters;
`surrogates` keeps its code points. -/
inductive Literal where
  | none
  | bool (b : Bool)
  | int (n : Int)
  | real (x : Binary64)
  | complex (re im : Binary64)
  | text (s : String)
  | surrogates (codes : List Nat)
  | bytes (bs : List UInt8)
  | ellipsis
  deriving DecidableEq, Repr, Inhabited

/-- The literal of a text that is given by its code points. -/
def Literal.ofCodes (codes : List Nat) : Literal :=
  if codes.all fun n => decide n.isValidChar then .text (String.ofList (codes.map Char.ofNat))
  else .surrogates codes

/-- The characters of a text before its first surrogate. -/
def beforeSurrogate (codes : List Nat) : String :=
  String.ofList ((codes.takeWhile fun n => decide n.isValidChar).map Char.ofNat)

/-- How the value of a replacement field is turned into text before it is formatted. -/
inductive Conversion where
  | string
  | quoted
  | ascii
  deriving DecidableEq, Repr, Inhabited

/-- The three comprehensions with one element expression. -/
inductive ComprehensionForm where
  | list
  | set
  | generator
  deriving DecidableEq, Repr, Inhabited

mutual

/-- An expression. -/
inductive Expr where
  | boolOp (op : BoolOp) (operands : List Expr) (span : Span)
  | named (target value : Expr) (span : Span)
  | binary (left : Expr) (op : BinaryOp) (right : Expr) (span : Span)
  | unary (op : UnaryOp) (operand : Expr) (span : Span)
  | lambda (params : Parameters) (body : Expr) (span : Span)
  | conditional (test body orElse : Expr) (span : Span)
  | dict (items : List DictItem) (span : Span)
  | set (elements : List Expr) (span : Span)
  | comprehension (form : ComprehensionForm) (element : Expr) (clauses : List Clause) (span : Span)
  | dictComprehension (key value : Expr) (clauses : List Clause) (span : Span)
  | await (value : Expr) (span : Span)
  | yield (value : Option Expr) (span : Span)
  | yieldFrom (value : Expr) (span : Span)
  | compare (left : Expr) (rest : List Comparison) (span : Span)
  | call (func : Expr) (args : List Expr) (keywords : List Keyword) (span : Span)
  | formatted (value : Expr) (conversion : Option Conversion) (spec : Option Expr) (span : Span)
  | joined (parts : List Expr) (span : Span)
  | constant (value : Literal) (marked : Bool) (span : Span)
  | attribute (value : Expr) (attr : String) (usage : Usage) (span : Span)
  | subscript (value slice : Expr) (usage : Usage) (span : Span)
  | starred (value : Expr) (usage : Usage) (span : Span)
  | name (id : String) (usage : Usage) (span : Span)
  | list (elements : List Expr) (usage : Usage) (span : Span)
  | tuple (elements : List Expr) (usage : Usage) (span : Span)
  | slice (lower upper step : Option Expr) (span : Span)

/-- An entry of a dictionary display; without a key it is another dictionary, unpacked. -/
structure DictItem where
  key : Option Expr
  value : Expr

/-- One `op operand` of a chain of comparisons. -/
structure Comparison where
  op : CompareOp
  operand : Expr

/-- A keyword argument; without a name it is a mapping, unpacked. -/
structure Keyword where
  arg : Option String
  value : Expr
  span : Span

/-- A `for ... in ... if ...` of a comprehension. -/
structure Clause where
  target : Expr
  iter : Expr
  conditions : List Expr
  isAsync : Bool

/-- A parameter. -/
structure Parameter where
  name : String
  hint : Option Expr
  span : Span

/-- A parameter that is given by keyword only. -/
structure KeywordParameter where
  parameter : Parameter
  default : Option Expr

/-- The parameters of a function; `defaults` belong to the last of `positionalOnly ++ positional`. -/
structure Parameters where
  positionalOnly : List Parameter
  positional : List Parameter
  variadic : Option Parameter
  keywordOnly : List KeywordParameter
  keywordVariadic : Option Parameter
  defaults : List Expr

end

mutual

/-- A pattern of a `case`. -/
inductive Pattern where
  | value (expr : Expr) (span : Span)
  | singleton (value : Literal) (span : Span)
  | sequence (patterns : List Pattern) (span : Span)
  | mapping (entries : List PatternEntry) (rest : Option String) (span : Span)
  | cls (cls : Expr) (patterns : List Pattern) (keywords : List KeywordPattern) (span : Span)
  | star (name : Option String) (span : Span)
  | capture (pattern : Option Pattern) (name : Option String) (span : Span)
  | either (patterns : List Pattern) (span : Span)

/-- An entry of a mapping pattern. -/
structure PatternEntry where
  key : Expr
  pattern : Pattern

/-- An attribute of a class pattern with the pattern for it. -/
structure KeywordPattern where
  attr : String
  pattern : Pattern

end

/-- A context manager of a `with`, with the target of its value. -/
structure WithItem where
  context : Expr
  target : Option Expr

/-- A name of an `import`, with the name it is given. -/
structure Alias where
  name : String
  asName : Option String
  span : Span
  deriving DecidableEq, Repr, Inhabited

mutual

/-- A statement. -/
inductive Stmt where
  | function (isAsync : Bool) (name : String) (params : Parameters) (body : List Stmt)
      (decorators : List Expr) (returns : Option Expr) (span : Span)
  | classDef (name : String) (bases : List Expr) (keywords : List Keyword) (body : List Stmt)
      (decorators : List Expr) (span : Span)
  | ret (value : Option Expr) (span : Span)
  | delete (targets : List Expr) (span : Span)
  | assign (targets : List Expr) (value : Expr) (span : Span)
  | augAssign (target : Expr) (op : BinaryOp) (value : Expr) (span : Span)
  | annAssign (target hint : Expr) (value : Option Expr) (simple : Bool) (span : Span)
  | for (isAsync : Bool) (target iter : Expr) (body orElse : List Stmt) (span : Span)
  | while (test : Expr) (body orElse : List Stmt) (span : Span)
  | if (test : Expr) (body orElse : List Stmt) (span : Span)
  | with (isAsync : Bool) (items : List WithItem) (body : List Stmt) (span : Span)
  | match (subject : Expr) (cases : List MatchCase) (span : Span)
  | raise (exc cause : Option Expr) (span : Span)
  | try (isGroup : Bool) (body : List Stmt) (handlers : List Handler)
      (orElse finalBody : List Stmt) (span : Span)
  | assert (test : Expr) (message : Option Expr) (span : Span)
  | importModules (names : List Alias) (span : Span)
  | importFrom (module : Option String) (names : List Alias) (level : Nat) (span : Span)
  | global (names : List String) (span : Span)
  | nonlocal (names : List String) (span : Span)
  | expr (value : Expr) (span : Span)
  | pass (span : Span)
  | break (span : Span)
  | continue (span : Span)

/-- An `except` of a `try`. -/
structure Handler where
  type : Option Expr
  name : Option String
  body : List Stmt
  span : Span

/-- A `case` of a `match`. -/
structure MatchCase where
  pattern : Pattern
  guard : Option Expr
  body : List Stmt

end

/-- A module: its statements in order. -/
structure Module where
  body : List Stmt

/-- Where an expression stands. -/
def Expr.span : Expr → Span
  | .boolOp _ _ s | .named _ _ s | .binary _ _ _ s | .unary _ _ s | .lambda _ _ s
  | .conditional _ _ _ s | .dict _ s | .set _ s | .comprehension _ _ _ s
  | .dictComprehension _ _ _ s | .await _ s | .yield _ s | .yieldFrom _ s | .compare _ _ s
  | .call _ _ _ s | .formatted _ _ _ s | .joined _ s | .constant _ _ s | .attribute _ _ _ s
  | .subscript _ _ _ s | .starred _ _ s | .name _ _ s | .list _ _ s | .tuple _ _ s
  | .slice _ _ _ s => s

/-- Where a pattern stands. -/
def Pattern.span : Pattern → Span
  | .value _ s | .singleton _ s | .sequence _ s | .mapping _ _ s | .cls _ _ _ s | .star _ s
  | .capture _ _ s | .either _ s => s

/-- Where a statement stands. -/
def Stmt.span : Stmt → Span
  | .function _ _ _ _ _ _ s | .classDef _ _ _ _ _ s | .ret _ s | .delete _ s | .assign _ _ s
  | .augAssign _ _ _ s | .annAssign _ _ _ _ s | .for _ _ _ _ _ s | .while _ _ _ s | .if _ _ _ s
  | .with _ _ _ s | .match _ _ s | .raise _ _ s | .try _ _ _ _ _ s | .assert _ _ s | .importModules _ s
  | .importFrom _ _ _ s | .global _ s | .nonlocal _ s | .expr _ s | .pass s | .break s
  | .continue s => s

instance : Inhabited Expr := ⟨.name "" .load default⟩

instance : Inhabited Pattern := ⟨.star none default⟩

instance : Inhabited Stmt := ⟨.pass default⟩

instance : Inhabited Parameter := ⟨⟨"", none, default⟩⟩

instance : Inhabited Parameters := ⟨⟨[], [], none, [], none, []⟩⟩

instance : Inhabited Handler := ⟨⟨none, none, [], default⟩⟩

instance : Inhabited MatchCase := ⟨⟨default, none, []⟩⟩

instance : Inhabited Module := ⟨⟨[]⟩⟩

/-- The annotations of a function, in the order in which they are evaluated. -/
def Parameters.hints (p : Parameters) (returns : Option Expr) : List Expr :=
  (p.positionalOnly ++ p.positional ++ p.variadic.toList ++ p.keywordOnly.map (·.parameter) ++
    p.keywordVariadic.toList).filterMap (·.hint) ++ returns.toList

end Standin.Source
