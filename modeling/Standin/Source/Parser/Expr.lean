/-
The grammar of expressions.

Each production is a parser over the productions one bracket, operand or keyword
further in, which `Rules` collects; a production that is looser than the others
is built from the next tighter one, and only what follows a token of its own is
read by the inner rules.  So each step inwards uses up a token, and `rules n`,
which goes `n` steps deep, reads all there is to read when `n` exceeds the number
of tokens.
-/
import Standin.Source.Parser.Basic
import Standin.Source.Parser.Target
import Standin.Source.Parser.Field
import Standin.Source.Lexer

set_option autoImplicit false

namespace Standin.Source

open Standin.Source.Parser

/-- The productions that others refer to, as they are one step further in.  `rounds` bounds the
length of a list, and `embedded` reads the expression of a replacement field. -/
structure Rules where
  rounds : Nat
  embedded : Place → List Char → Option Expr
  expression : Parser Expr
  disjunction : Parser Expr
  negation : Parser Expr
  union : Parser Expr
  factor : Parser Expr
  primary : Parser Expr

/-! ## String literals -/

/-- A part of a string literal: code points, or a field. -/
inductive Segment where
  | codes (codes : List Nat)
  | field (e : Expr)

/-- The parts of a literal with fields as expressions, neighbouring code points joined. -/
def Segment.join (marked : Bool) (span : Span) : List Nat → List Segment → List Expr
  | [], [] => []
  | before, [] => [.constant (.ofCodes before) marked span]
  | before, .codes more :: rest => join marked span (before ++ more) rest
  | [], .field e :: rest => e :: join marked span [] rest
  | before, .field e :: rest =>
    .constant (.ofCodes before) marked span :: e :: join marked span [] rest

/-- The place of `rest`, which ends the text `cs` that starts at `p`. -/
def Place.ofRest (p : Place) (cs rest : List Char) : Place :=
  p.afterAll (cs.take (cs.length - rest.length))

/-- The code points of a literal stretch. -/
def stretchCodes (raw : Bool) (stretch : List Char) : Option (List Nat) :=
  if raw then some (stretch.map Char.toNat)
  else Escape.decodeWith Escape.textEscape 0 stretch

/-- The conversion of a field: a value that its own text is repeated before is quoted, if nothing
else is said about it. -/
def fieldConversion (suffix : Field.Suffix) (spec : Option Expr) : Option Conversion :=
  if suffix.echo.isSome && spec.isNone && suffix.conversion.isNone then some .quoted
  else suffix.conversion

/-- The parts of the characters `cs` of a literal, and what is left of them: nothing, or in a
format the text from the closing brace on.  `levels` says how deep fields may still be nested. -/
def fieldSegments (embedded : Place → List Char → Option Expr) (raw : Bool) (span : Span) :
    Nat → Nat → Bool → Place → List Char → Option (List Segment × List Char)
  | 0, _, _, _, _ => none
  | fuel + 1, levels, inFormat, place, cs => do
    let (stretch, ending, rest) ← Field.literal raw inFormat (cs.length + 1) cs
    let codes ← stretchCodes raw stretch
    match ending with
    | .finished => some ([.codes codes], [])
    | .closed => some ([.codes codes], rest)
    | .doubled =>
      let (more, rest') ←
        fieldSegments embedded raw span fuel levels inFormat (place.ofRest cs rest) rest
      some (.codes codes :: more, rest')
    | .opened =>
      if levels = 0 then none else do
        let (text, afterText) ← Field.expression [] none (rest.drop 1)
        if text.all Field.isSpace then none else do
          let value ← embedded (place.ofRest cs rest) text
          let (suffix, afterSuffix) ← Field.suffix text afterText
          let (spec, afterSpec) ←
            (match afterSuffix with
            | ':' :: format =>
              (fieldSegments embedded raw span fuel (levels - 1) true (place.ofRest cs format)
                format).map fun (segments, rest) =>
                  (some (Expr.joined (Segment.join false span [] segments) span), rest)
            | _ => some (none, afterSuffix))
          match afterSpec with
          | '\x7d' :: afterField =>
            let (more, rest') ← fieldSegments embedded raw span fuel levels inFormat
              (place.ofRest cs afterField) afterField
            some (.codes codes :: .codes ((suffix.echo.getD []).map Char.toNat) ::
              .field (.formatted value (fieldConversion suffix spec) spec span) :: more, rest')
          | _ => none

/-- The parts of one piece of a string literal that starts at `place`. -/
def StringPiece.segments (embedded : Place → List Char → Option Expr) (span : Span)
    (place : Place) : StringPiece → Option (List Segment)
  | .text codes => some [.codes codes]
  | .bytes _ => none
  | .fields raw opening body =>
    (fieldSegments embedded raw span (body.length + 2) 2 false
      ⟨place.line, place.col + opening⟩ body).map (·.1)

/-- Whether a piece may have fields. -/
def StringPiece.hasFields : StringPiece → Bool
  | .fields _ _ _ => true
  | _ => false

/-- The value of neighbouring string literals: either all of them are byte strings or none is. -/
def literalOfPieces (embedded : Place → List Char → Option Expr) (marked : Bool) (span : Span)
    (pieces : List (StringPiece × Place)) : Option Expr :=
  let bytes := pieces.filterMap fun (p, _) => match p with | .bytes bs => some bs | _ => none
  if bytes.isEmpty then do
    let segments ← pieces.mapM fun (p, place) => p.segments embedded span place
    let parts := Segment.join marked span [] segments.flatten
    if pieces.any (·.1.hasFields) then some (.joined parts span)
    else match parts with
    | [] => some (.constant (.text "") marked span)
    | [part] => some part
    | _ => none
  else if bytes.length = pieces.length then some (.constant (.bytes bytes.flatten) false span)
  else none

/-- A string literal with its place, and whether it is marked with a `u`. -/
def stringToken : Parser (StringPiece × Place × Bool) := do
  let t ← token
  match t.lexeme with
  | .string piece marked => return (piece, t.span.start, marked)
  | _ => reject

/-! ## Displays and comprehensions -/

section Productions

variable (r : Rules)

/-- One or more string literals side by side. -/
def strings : Parser Expr := do
  let start ← here
  let tokens ← many₁ stringToken r.rounds
  let span ← spanFrom start
  let marked := tokens.head?.any fun (_, _, m) => m
  match literalOfPieces r.embedded marked span (tokens.map fun (p, place, _) => (p, place)) with
  | some e => return e
  | none => reject

/-- Whether a name that is given a value comes next. -/
def atNamed : Parser Bool := do
  match ← peek, ← peekSecond with
  | .name _ _, .sign .walrus => return true
  | _, _ => return false

/-- An expression, or a name that is given one with `:=`. -/
def namedExpression : Parser Expr := do
  let start ← here
  if ← atNamed then
    let id ← name
    let target := Expr.name id .store (← spanFrom start)
    sign .walrus
    let value ← r.expression
    return .named target value (← spanFrom start)
  else
    let e ← r.expression
    -- Only a name can be given a value so.
    if ← nextIsSign .walrus then reject
    return e

/-- A starred operand, or a named expression. -/
def starredOrNamed : Parser Expr := do
  let start ← here
  if ← signIfNext .star then
    let e ← r.union
    return .starred e .load (← spanFrom start)
  else namedExpression r

/-- A starred operand, or an expression. -/
def starredOrExpression : Parser Expr := do
  let start ← here
  if ← signIfNext .star then
    let e ← r.union
    return .starred e .load (← spanFrom start)
  else r.expression

/-- One phrase alone, or several with commas as a tuple. -/
def tupleOf (item : Parser Expr) : Parser Expr := do
  let start ← here
  let first ← item
  if ← nextIsSign .comma then
    let rest ← many (do sign .comma; item) r.rounds
    let _ ← signIfNext .comma
    return .tuple (first :: rest) .load (← spanFrom start)
  else return first

/-- Expressions, as a tuple if there is a comma. -/
def expressions : Parser Expr := tupleOf r r.expression

/-- Expressions of which some may be starred, as a tuple if there is a comma. -/
def starExpressions : Parser Expr := tupleOf r (starredOrExpression r)

/-- Everything after a `yield`, and the word itself. -/
def yieldExpression : Parser Expr := do
  let start ← here
  word .yield
  if ← wordIfNext .from then
    let e ← r.expression
    return .yieldFrom e (← spanFrom start)
  else
    let value ← attempt (starExpressions r)
    return .yield value (← spanFrom start)

/-- A `yield`, or expressions of which some may be starred. -/
def yieldOrExpressions : Parser Expr := do
  if ← nextIsWord .yield then yieldExpression r else starExpressions r

/-- One target that is stored to, which may be starred. -/
def starTarget : Parser Expr := do
  let start ← here
  let e ← if ← signIfNext .star then
      let e ← r.primary
      pure (.starred e .load (← spanFrom start))
    else r.primary
  ofOption e.asStored?

/-- Targets that are stored to, as a tuple if there is a comma. -/
def starTargets : Parser Expr := do
  let start ← here
  let first ← starTarget r
  if ← nextIsSign .comma then
    let rest ← many (do sign .comma; starTarget r) r.rounds
    let _ ← signIfNext .comma
    return .tuple (first :: rest) .store (← spanFrom start)
  else return first

/-- A `for` of a comprehension with the conditions after it. -/
def clause : Parser Clause := do
  let isAsync ← wordIfNext .async
  word .for
  let target ← starTargets r
  word .in
  let iter ← r.disjunction
  let conditions ← many (do word .if; r.disjunction) r.rounds
  return { target, iter, conditions, isAsync }

/-- Whether a comprehension's clause comes next. -/
def atClause : Parser Bool := do
  match ← peek with
  | .reserved .for | .reserved .async => return true
  | _ => return false

/-- Whether the expression is starred. -/
def Expr.isStarred : Expr → Bool
  | .starred _ _ _ => true
  | _ => false

/-- A display in brackets whose first element is read: more elements, or clauses. -/
def displayRest (start : Place) (first : Expr) (close : Sign) (form : ComprehensionForm)
    (build : List Expr → Span → Expr) : Parser Expr := do
  if ← atClause then
    if first.isStarred then reject
    let clauses ← many₁ (clause r) r.rounds
    sign close
    return .comprehension form first clauses (← spanFrom start)
  else
    let rest ← many (do sign .comma; starredOrNamed r) r.rounds
    let _ ← signIfNext .comma
    sign close
    return build (first :: rest) (← spanFrom start)

/-- What begins with a parenthesis: a tuple, a generator, or an expression in parentheses. -/
def parenthesized : Parser Expr := do
  let start ← here
  sign .openParen
  match ← peek with
  | .sign .closeParen =>
    sign .closeParen
    return .tuple [] .load (← spanFrom start)
  | .reserved .yield =>
    let e ← yieldExpression r
    sign .closeParen
    return e
  | _ =>
    let first ← starredOrNamed r
    match ← peek with
    | .sign .closeParen =>
      if first.isStarred then reject
      sign .closeParen
      return first
    | _ => displayRest r start first .closeParen .generator (.tuple · .load ·)

/-- What begins with a square bracket: a list, or a list comprehension. -/
def bracketed : Parser Expr := do
  let start ← here
  sign .openBracket
  if ← signIfNext .closeBracket then return .list [] .load (← spanFrom start)
  let first ← starredOrNamed r
  displayRest r start first .closeBracket .list (.list · .load ·)

/-- An entry of a dictionary display. -/
def dictItem : Parser DictItem := do
  if ← signIfNext .doubleStar then
    let value ← r.union
    return ⟨none, value⟩
  else
    let key ← r.expression
    sign .colon
    let value ← r.expression
    return ⟨some key, value⟩

/-- A dictionary display whose first entry is read. -/
def dictRest (start : Place) (first : DictItem) : Parser Expr := do
  let rest ← many (do sign .comma; dictItem r) r.rounds
  let _ ← signIfNext .comma
  sign .closeBrace
  return .dict (first :: rest) (← spanFrom start)

/-- What begins with a brace: a dictionary, a set, or a comprehension of either. -/
def braced : Parser Expr := do
  let start ← here
  sign .openBrace
  match ← peek with
  | .sign .closeBrace =>
    sign .closeBrace
    return .dict [] (← spanFrom start)
  | .sign .doubleStar =>
    let first ← dictItem r
    dictRest r start first
  | _ =>
    -- What is named or starred is no key: a colon after it is left to fail.
    let isNamed ← atNamed
    let first ← starredOrNamed r
    if (← nextIsSign .colon) && !first.isStarred && !isNamed then
      sign .colon
      let value ← r.expression
      if ← atClause then
        let clauses ← many₁ (clause r) r.rounds
        sign .closeBrace
        return .dictComprehension first value clauses (← spanFrom start)
      else dictRest r start ⟨some first, value⟩
    else displayRest r start first .closeBrace .set .set

/-! ## Operands -/

/-- A name, a literal, a display or an expression in brackets. -/
def atom : Parser Expr := do
  let start ← here
  let constant (v : Literal) : Parser Expr := do
    let _ ← token
    return .constant v false (← spanFrom start)
  match ← peek with
  | .name id _ =>
    let _ ← token
    return .name id .load (← spanFrom start)
  | .reserved .true => constant (.bool true)
  | .reserved .false => constant (.bool false)
  | .reserved .none => constant .none
  | .number v => constant v
  | .string _ _ => strings r
  | .sign .openParen => parenthesized r
  | .sign .openBracket => bracketed r
  | .sign .openBrace => braced r
  | .sign .ellipsis => constant .ellipsis
  | _ => reject

/-- An argument of a call. -/
inductive Argument where
  | positional (e : Expr)
  | keyword (k : Keyword)

/-- The arguments of a call from its last to its first: how far the kinds of arguments have
advanced decides which may still come.  Before a keyword all may; after one, no plain expression;
after an unpacked mapping, no starred one either. -/
inductive ArgumentStage where
  | plain
  | keywords
  | mappings
  deriving DecidableEq

/-- One argument, and the stage after it. -/
def argument (stage : ArgumentStage) : Parser (Argument × ArgumentStage) := do
  let start ← here
  match ← peek, ← peekSecond with
  | .sign .doubleStar, _ =>
    sign .doubleStar
    let value ← r.expression
    return (.keyword ⟨none, value, ← spanFrom start⟩, .mappings)
  | .sign .star, _ =>
    if stage = .mappings then reject
    sign .star
    let value ← r.expression
    return (.positional (.starred value .load (← spanFrom start)), stage)
  | .name _ _, .sign .equal =>
    let arg ← name
    sign .equal
    let value ← r.expression
    return (.keyword ⟨some arg, value, ← spanFrom start⟩,
      if stage = .plain then .keywords else stage)
  | _, _ =>
    if stage ≠ .plain then reject
    let e ← namedExpression r
    return (.positional e, .plain)

/-- The arguments after the first one. -/
def argumentsFrom (stage : ArgumentStage) : Nat → Parser (List Argument)
  | 0 => return []
  | rounds + 1 => do
    match ← attempt (do sign .comma; argument r stage) with
    | none => return []
    | some (a, stage) => return a :: (← argumentsFrom stage rounds)

/-- The arguments between the parentheses of a call or a class. -/
def arguments : Parser (List Argument) := do
  if ← nextIsSign .closeParen then return []
  let (first, stage) ← argument r .plain
  let rest ← argumentsFrom r stage r.rounds
  let _ ← signIfNext .comma
  return first :: rest

/-- The positional arguments among all. -/
def positionalArguments (args : List Argument) : List Expr :=
  args.filterMap fun a => match a with | .positional e => some e | .keyword _ => none

/-- The keyword arguments among all. -/
def keywordArguments (args : List Argument) : List Keyword :=
  args.filterMap fun a => match a with | .keyword k => some k | .positional _ => none

/-- What a call is given: arguments, or a generator alone, which shares the parentheses of the call. -/
def callArguments : Parser (List Expr × List Keyword) := do
  let start ← here
  sign .openParen
  if ← signIfNext .closeParen then return ([], [])
  let (first, stage) ← argument r .plain
  match first with
  | .positional e =>
    if (← atClause) && !e.isStarred then
      let clauses ← many₁ (clause r) r.rounds
      sign .closeParen
      return ([.comprehension .generator e clauses (← spanFrom start)], [])
  | .keyword _ => pure ()
  let args := first :: (← argumentsFrom r stage r.rounds)
  let _ ← signIfNext .comma
  sign .closeParen
  return (positionalArguments args, keywordArguments args)

/-- Whether a bound of a slice is left out: what comes next ends it. -/
def atBoundEnd : Parser Bool := do
  match ← peek with
  | .sign .colon | .sign .comma | .sign .closeBracket => return true
  | _ => return false

/-- A bound of a slice, if it has one. -/
def sliceBound : Parser (Option Expr) := do
  if ← atBoundEnd then return none else return some (← r.expression)

/-- A slice from its first colon on. -/
def sliceAfter (start : Place) (lower : Option Expr) : Parser Expr := do
  sign .colon
  let upper ← sliceBound r
  let step ← if ← signIfNext .colon then sliceBound r else pure none
  return .slice lower upper step (← spanFrom start)

/-- A part of an index: a slice, or an expression. -/
def sliceItem : Parser Expr := do
  let start ← here
  if ← nextIsSign .colon then sliceAfter r start none
  else
    let isNamed ← atNamed
    let e ← namedExpression r
    if (← nextIsSign .colon) && !isNamed then sliceAfter r start (some e) else return e

/-- A part of an index, which may be starred. -/
def starredOrSlice : Parser Expr := do
  let start ← here
  if ← signIfNext .star then
    let e ← r.expression
    return .starred e .load (← spanFrom start)
  else sliceItem r

/-- The index of a subscript, as a tuple if there is a comma or a star. -/
def sliceIndex : Parser Expr := do
  let start ← here
  let first ← starredOrSlice r
  if (← nextIsSign .comma) || first.isStarred then
    let rest ← many (do sign .comma; starredOrSlice r) r.rounds
    let _ ← signIfNext .comma
    return .tuple (first :: rest) .load (← spanFrom start)
  else return first

/-- An attribute, call or subscript of an operand that is read. -/
def trailer (start : Place) (e : Expr) : Parser Expr := do
  match ← peek with
  | .sign .dot =>
    sign .dot
    let attr ← name
    return .attribute e attr .load (← spanFrom start)
  | .sign .openParen =>
    let (args, keywords) ← callArguments r
    return .call e args keywords (← spanFrom start)
  | .sign .openBracket =>
    sign .openBracket
    let index ← sliceIndex r
    sign .closeBracket
    return .subscript e index .load (← spanFrom start)
  | _ => reject

/-- An operand with its attributes, calls and subscripts. -/
def primary : Parser Expr := do
  let start ← here
  let e ← atom r
  extendLeft (trailer r start) r.rounds e

/-! ## Operators -/

/-- An operand that may be awaited. -/
def awaited : Parser Expr := do
  let start ← here
  if ← wordIfNext .await then
    let e ← primary r
    return .await e (← spanFrom start)
  else primary r

/-- A power; its exponent may have a sign. -/
def power : Parser Expr := do
  let start ← here
  let base ← awaited r
  if ← signIfNext .doubleStar then
    let exponent ← r.factor
    return .binary base .pow exponent (← spanFrom start)
  else return base

/-- The operator a sign is before an operand. -/
def unaryOp? : Lexeme → Option UnaryOp
  | .sign .plus => some .plus
  | .sign .minus => some .minus
  | .sign .tilde => some .invert
  | _ => none

/-- An operand with its sign. -/
def factor : Parser Expr := do
  let start ← here
  match unaryOp? (← peek) with
  | some op =>
    let _ ← token
    let e ← r.factor
    return .unary op e (← spanFrom start)
  | none => power r

/-- Operands joined from the left by the operators of one level. -/
def leftAssociative (op? : Lexeme → Option BinaryOp) (operand : Parser Expr) : Parser Expr := do
  let start ← here
  let first ← operand
  extendLeft (fun left => do
    match op? (← peek) with
    | some op =>
      let _ ← token
      let right ← operand
      return .binary left op right (← spanFrom start)
    | none => reject) r.rounds first

/-- The operators of products. -/
def termOp? : Lexeme → Option BinaryOp
  | .sign .star => some .mul
  | .sign .slash => some .div
  | .sign .doubleSlash => some .floorDiv
  | .sign .percent => some .mod
  | .sign .at => some .matMul
  | _ => none

/-- The operators of sums. -/
def sumOp? : Lexeme → Option BinaryOp
  | .sign .plus => some .add
  | .sign .minus => some .sub
  | _ => none

/-- The operators of shifts. -/
def shiftOp? : Lexeme → Option BinaryOp
  | .sign .shiftLeft => some .shiftLeft
  | .sign .shiftRight => some .shiftRight
  | _ => none

/-- A product. -/
def term : Parser Expr := leftAssociative r termOp? (factor r)

/-- A sum. -/
def sum : Parser Expr := leftAssociative r sumOp? (term r)

/-- A shift. -/
def shift : Parser Expr := leftAssociative r shiftOp? (sum r)

/-- A bitwise conjunction. -/
def meet : Parser Expr :=
  leftAssociative r (fun l => if l = .sign .ampersand then some .bitAnd else none) (shift r)

/-- A bitwise exclusive disjunction. -/
def exclusive : Parser Expr :=
  leftAssociative r (fun l => if l = .sign .caret then some .bitXor else none) (meet r)

/-- A bitwise disjunction, the loosest of the binary operators. -/
def union : Parser Expr :=
  leftAssociative r (fun l => if l = .sign .bar then some .bitOr else none) (exclusive r)

/-- A comparison operator, of one or two tokens. -/
def compareOp : Parser CompareOp := do
  match (← token).lexeme with
  | .sign .equalEqual => return .eq
  | .sign .notEqual => return .notEq
  | .sign .lessEqual => return .le
  | .sign .less => return .lt
  | .sign .greaterEqual => return .ge
  | .sign .greater => return .gt
  | .reserved .in => return .isIn
  | .reserved .not =>
    word .in
    return .notIn
  | .reserved .is => if ← wordIfNext .not then return .isNot else return .is
  | _ => reject

/-- A chain of comparisons. -/
def comparison : Parser Expr := do
  let start ← here
  let left ← union r
  let rest ← many (do return ⟨← compareOp, ← union r⟩) r.rounds
  if rest.isEmpty then return left else return .compare left rest (← spanFrom start)

/-- A negation. -/
def negation : Parser Expr := do
  let start ← here
  if ← wordIfNext .not then
    let e ← r.negation
    return .unary .not e (← spanFrom start)
  else comparison r

/-- Operands joined by a word, all in one node. -/
def joinedBy (w : Reserved) (op : BoolOp) (operand : Parser Expr) : Parser Expr := do
  let start ← here
  let first ← operand
  let rest ← many (do word w; operand) r.rounds
  if rest.isEmpty then return first else return .boolOp op (first :: rest) (← spanFrom start)

/-- A conjunction. -/
def conjunction : Parser Expr := joinedBy r .and .and (negation r)

/-- A disjunction. -/
def disjunction : Parser Expr := joinedBy r .or .or (conjunction r)

/-! ## Parameters and lambdas -/

/-- The parameters read so far, each list from the last to the first. -/
structure ParametersRead where
  positionalOnly : List Parameter := []
  positional : List Parameter := []
  defaults : List Expr := []
  sawStar : Bool := false
  variadic : Option Parameter := none
  keywordOnly : List KeywordParameter := []
  keywordVariadic : Option Parameter := none
  sawSlash : Bool := false

/-- A parameter without its default; annotations are only written in a `def`. -/
def parameter (annotated : Bool) : Parser Parameter := do
  let start ← here
  let id ← name
  let hint ←
    if annotated then
      if ← signIfNext .colon then some <$> r.expression else pure none
    else pure none
  return ⟨id, hint, ← spanFrom start⟩

/-- The parameter after a star, whose annotation may be starred. -/
def starParameter (annotated : Bool) : Parser Parameter := do
  let start ← here
  let id ← name
  let hint ←
    if annotated then
      if ← signIfNext .colon then some <$> starredOrExpression r else pure none
    else pure none
  return ⟨id, hint, ← spanFrom start⟩

/-- The default of a parameter, if it has one. -/
def default? : Parser (Option Expr) := do
  if ← signIfNext .equal then some <$> r.expression else pure none

/-- One parameter, slash or star, added to those before it.  Once a parameter has a default, the
positional ones after it have one too. -/
def parameterStep (annotated : Bool) (p : ParametersRead) : Parser ParametersRead := do
  if p.keywordVariadic.isSome then reject
  match ← peek with
  | .sign .slash =>
    if p.sawSlash || p.sawStar || p.positional.isEmpty then reject
    sign .slash
    return { p with positionalOnly := p.positional, positional := [], sawSlash := true }
  | .sign .doubleStar =>
    sign .doubleStar
    let q ← parameter r annotated
    return { p with keywordVariadic := some q }
  | .sign .star =>
    if p.sawStar then reject
    sign .star
    -- A star alone only separates; that something follows it is asked at the end.
    if ← nextIsSign .comma then return { p with sawStar := true }
    let q ← starParameter r annotated
    return { p with sawStar := true, variadic := some q }
  | _ =>
    let q ← parameter r annotated
    let d ← default? r
    if p.sawStar then return { p with keywordOnly := ⟨q, d⟩ :: p.keywordOnly }
    match d with
    | some d => return { p with positional := q :: p.positional, defaults := d :: p.defaults }
    | none =>
      if p.defaults.isEmpty then return { p with positional := q :: p.positional } else reject

/-- The parameters of a `def` or a lambda; a star alone needs a keyword parameter after it. -/
def parameters (annotated : Bool) : Parser Parameters := do
  let read ← match ← attempt (parameterStep r annotated {}) with
    | none => pure {}
    | some first => do
      let all ← extendLeft (fun p => do sign .comma; parameterStep r annotated p) r.rounds first
      let _ ← signIfNext .comma
      pure all
  if read.sawStar && read.variadic.isNone && read.keywordOnly.isEmpty then reject
  return {
    positionalOnly := read.positionalOnly.reverse
    positional := read.positional.reverse
    variadic := read.variadic
    keywordOnly := read.keywordOnly.reverse
    keywordVariadic := read.keywordVariadic
    defaults := read.defaults.reverse }

/-- A lambda. -/
def lambda : Parser Expr := do
  let start ← here
  word .lambda
  let params ← parameters r false
  sign .colon
  let body ← r.expression
  return .lambda params body (← spanFrom start)

/-- An expression: a lambda, a conditional expression or a disjunction. -/
def expression : Parser Expr := do
  if ← nextIsWord .lambda then lambda r
  else
    let start ← here
    let body ← disjunction r
    match ← attempt (do
      word .if
      let test ← disjunction r
      word .else
      let orElse ← r.expression
      return (test, orElse)) with
    | some (test, orElse) => return .conditional test body orElse (← spanFrom start)
    | none => return body

end Productions

/-! ## The rules tied together -/

/-- The rules that accept nothing. -/
def Rules.empty : Rules where
  rounds := 0
  embedded := fun _ _ => none
  expression := reject
  disjunction := reject
  negation := reject
  union := reject
  factor := reject
  primary := reject

/-- The rules one step further out. -/
def Rules.next (r : Rules) : Rules where
  rounds := r.rounds + 1
  embedded := r.embedded
  expression := Standin.Source.expression r
  disjunction := Standin.Source.disjunction r
  negation := Standin.Source.negation r
  union := Standin.Source.union r
  factor := Standin.Source.factor r
  primary := Standin.Source.primary r

/-- The rules that reach so many steps inwards. -/
def rules (embedded : Place → List Char → Option Expr) : Nat → Rules
  | 0 => { Rules.empty with embedded := embedded }
  | n + 1 => (rules embedded n).next

/-- The expression of a replacement field, read as if it stood in parentheses at `place`, where
its brace is.  Such expressions are nested no deeper than `depth`. -/
def embeddedExpression : Nat → Place → List Char → Option Expr
  | 0, _, _ => none
  | depth + 1, place, cs => do
    let tokens ← tokenize place ('(' :: cs ++ [')', '\n'])
    let r := rules (embeddedExpression depth) (tokens.length + 1)
    let (e, _) ← (starExpressions r).run ⟨tokens, place⟩
    some e

/-- The rules for a text of so many tokens and characters. -/
def rulesFor (tokens : List Token) (cs : List Char) : Rules :=
  rules (embeddedExpression (cs.length + 1)) (tokens.length + 1)

end Standin.Source
