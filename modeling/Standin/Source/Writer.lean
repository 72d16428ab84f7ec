/-
Writing a tree as text.

Parentheses are written where the level at which an expression stands asks for a
tighter one, and nowhere else except around tuples and values given to names.
Every statement begins on a line of its own, functions and classes after an
empty one.  Only two trees cannot be written: the expression of a replacement
field may hold no backslash, and an integer may not have too many digits, which
one that was read in a base other than ten can have.
-/
import Standin.Source.Numeral
import Standin.Number.Shortest
import Standin.Text.Quoted

set_option autoImplicit false

namespace Standin.Source

open Standin.Number (NumberFormat Binary64)
open Standin.Text

/-- Why a tree cannot be written. -/
inductive WriteError where
  /-- The text of a field's expression would hold a backslash. -/
  | backslashInField
  /-- An integer has more decimal digits than one may have. -/
  | tooManyDigits
  deriving DecidableEq, Repr

/-- The levels at which an expression can stand, from the loosest to the tightest. -/
inductive Level where
  | named
  | tuple
  | yield
  | test
  | or
  | and
  | not
  | compare
  | union
  | exclusive
  | meet
  | shift
  | sum
  | term
  | factor
  | power
  | await
  | atom
  deriving DecidableEq, Repr, Inhabited

namespace Level

/-- The position of a level in the order. -/
def rank (l : Level) : Nat := l.ctorIdx

/-- The next tighter level; nothing is tighter than an atom. -/
def tighter : Level → Level
  | .named => .tuple
  | .tuple => .yield
  | .yield => .test
  | .test => .or
  | .or => .and
  | .and => .not
  | .not => .compare
  | .compare => .union
  | .union => .exclusive
  | .exclusive => .meet
  | .meet => .shift
  | .shift => .sum
  | .sum => .term
  | .term => .factor
  | .factor => .power
  | .power => .await
  | .await => .atom
  | .atom => .atom

end Level

/-- The text in parentheses if the place where it stands is tighter than its own level. -/
def parenthesize (place own : Level) (s : String) : String :=
  if own.rank < place.rank then "(" ++ s ++ ")" else s

/-- The level of a binary operator. -/
def BinaryOp.level : BinaryOp → Level
  | .add | .sub => .sum
  | .mul | .matMul | .div | .mod | .floorDiv => .term
  | .pow => .power
  | .shiftLeft | .shiftRight => .shift
  | .bitOr => .union
  | .bitXor => .exclusive
  | .bitAnd => .meet

/-- The sign of a binary operator. -/
def BinaryOp.text : BinaryOp → String
  | .add => "+"
  | .sub => "-"
  | .mul => "*"
  | .matMul => "@"
  | .div => "/"
  | .mod => "%"
  | .pow => "**"
  | .shiftLeft => "<<"
  | .shiftRight => ">>"
  | .bitOr => "|"
  | .bitXor => "^"
  | .bitAnd => "&"
  | .floorDiv => "//"

/-- A unary operator with what separates it from its operand. -/
def UnaryOp.text : UnaryOp → String
  | .invert => "~"
  | .not => "not "
  | .plus => "+"
  | .minus => "-"

/-- The level of a unary operator. -/
def UnaryOp.level : UnaryOp → Level
  | .not => .not
  | .invert | .plus | .minus => .factor

/-- The text of a comparison operator. -/
def CompareOp.text : CompareOp → String
  | .eq => "=="
  | .notEq => "!="
  | .lt => "<"
  | .le => "<="
  | .gt => ">"
  | .ge => ">="
  | .is => "is"
  | .isNot => "is not"
  | .isIn => "in"
  | .notIn => "not in"

/-- The level of a conjunction or disjunction. -/
def BoolOp.level : BoolOp → Level
  | .and => .and
  | .or => .or

/-- The word of a conjunction or disjunction. -/
def BoolOp.text : BoolOp → String
  | .and => "and"
  | .or => "or"

/-- The letter of a conversion. -/
def Conversion.letter : Conversion → String
  | .string => "s"
  | .quoted => "r"
  | .ascii => "a"

/-- A real number as a literal: what no literal denotes is written as one that overflows, or as a
difference of two such. -/
def writeReal (f : NumberFormat) : Binary64 → String
  | .nan => "(1e309-1e309)"
  | .infinite neg => if neg then "-1e309" else "1e309"
  | x => f.write x

/-- A complex number: the real part is left out if it is the positive zero. -/
def writeComplex (re im : Binary64) : String :=
  let f := NumberFormat.imaginary
  match re with
  | .finite false 0 _ => writeReal f im ++ "j"
  | _ =>
    let imText := writeReal f im
    "(" ++ writeReal f re ++ (if imText.startsWith "-" then "" else "+") ++ imText ++ "j)"

/-- The text of a literal.  Where backslashes should be avoided, a text gets the quotes that suit
it. -/
def Literal.write (avoid : Bool) : Literal → String
  | .none => "None"
  | .bool b => if b then "True" else "False"
  | .int n => toString n
  | .real x => writeReal .real x
  | .complex re im => writeComplex re im
  | .text s => if avoid then fitted allQuotes (codesOf s) else quoted s
  | .surrogates codes => if avoid then fitted allQuotes codes else quoteCodes codes
  | .bytes bs => quoteBytes bs
  | .ellipsis => "..."

/-- Whether a literal is an integer with more decimal digits than one may have. -/
def Literal.isTooLong : Literal → Bool
  | .int n => Numeral.maxDecimalDigits < (Nat.toDigits 10 n.natAbs).length
  | _ => false

/-- The text of a literal that can be written. -/
def Literal.asText (avoid : Bool) (v : Literal) : Except WriteError String :=
  if v.isTooLong then throw .tooManyDigits else return v.write avoid

/-- Whether a literal is an integer; after one the point of an attribute needs a blank. -/
def Literal.isInteger : Literal → Bool
  | .int _ | .bool _ => true
  | _ => false

/-- Code points with every brace written twice. -/
def doubleBraces (codes : List Nat) : List Nat :=
  codes.flatMap fun n => if n = 123 ∨ n = 125 then [n, n] else [n]

/-- The literal with fields that these parts make up, without the `f` before it.  A part is given
by its code points and whether it is a literal stretch, where white space may be escaped.  The
quotes must suit all parts; if none do, everything is escaped. -/
def joinFields (parts : List (List Nat × Bool)) : String :=
  let step (acc : Option (String × List String)) (part : List Nat × Bool) :=
    acc.bind fun (text, quotes) =>
      let (body, suited) := fitQuotes quotes part.2 part.1
      if suited.any quotes.contains then some (text ++ body, suited) else none
  match parts.foldl step (some ("", allQuotes)) with
  | some (text, quotes) =>
    let q := quotes.headD "'"
    q ++ text ++ q
  | none =>
    let escaped (part : List Nat × Bool) : String :=
      -- The double quote in front makes the single one be chosen.
      String.ofList (((quoteCodes (34 :: part.1)).toList.drop 2).dropLast)
    "'''" ++ String.join (parts.map escaped) ++ "'''"

/-- The text of a field's expression, unless it holds a backslash. -/
def withoutBackslash (e : String) : Except WriteError String :=
  if e.toList.contains '\\' then throw .backslashInField else return e

/-- A replacement field with this expression, conversion and format. -/
def fieldText (e : String) (c : Option Conversion) (format : String) : String :=
  let conversion := match c with | none => "" | some c => "!" ++ c.letter
  "\x7b" ++ (if e.startsWith "\x7b" then " " else "") ++ e ++ conversion ++ format ++ "\x7d"

/-- Texts with a comma after a single one and between several. -/
def commaTuple (texts : List String) : String :=
  match texts with
  | [t] => t ++ ","
  | _ => ", ".intercalate texts

/-- Whether a slice is a tuple that needs no parentheses as an index. -/
def Expr.isNonEmptyTuple : Expr → Bool
  | .tuple (_ :: _) _ _ => true
  | _ => false

/-- Whether an expression is an integer literal. -/
def Expr.isIntegerLiteral : Expr → Bool
  | .constant v _ _ => v.isInteger
  | _ => false

mutual

/-- The text of an expression that stands at the level `place`.  With `avoid` it is part of a
replacement field, where texts get the quotes that need the fewest backslashes. -/
def Expr.write (avoid : Bool) (place : Level) : Expr → Except WriteError String
  | .boolOp op es _ => do
    let texts ← writeIncreasing avoid op.level es
    return parenthesize place op.level ((" " ++ op.text ++ " ").intercalate texts)
  | .named t v _ => do
    let t ← t.write avoid .atom
    let v ← v.write avoid .atom
    return parenthesize place .named (t ++ " := " ++ v)
  | .binary l op r _ => do
    let own := op.level
    -- Operands are grouped from the left, those of a power from the right.
    let l ← l.write avoid (if op = .pow then own.tighter else own)
    let r ← r.write avoid (if op = .pow then own else own.tighter)
    return parenthesize place own (l ++ " " ++ op.text ++ " " ++ r)
  | .unary op e _ => do
    let e ← e.write avoid op.level
    return parenthesize place op.level (op.text ++ e)
  | .lambda ps body _ => do
    let ps ← ps.write avoid
    let body ← body.write avoid .test
    let head := if ps.isEmpty then "lambda: " else "lambda " ++ ps ++ ": "
    return parenthesize place .test (head ++ body)
  | .conditional test body orElse _ => do
    let body ← body.write avoid (Level.tighter .test)
    let test ← test.write avoid (Level.tighter .test)
    let orElse ← orElse.write avoid .test
    return parenthesize place .test (body ++ " if " ++ test ++ " else " ++ orElse)
  | .dict items _ => do
    let items ← writeItems avoid items
    return "\x7b" ++ ", ".intercalate items ++ "\x7d"
  | .set es _ => do
    if es.isEmpty then return "\x7b*()\x7d"
    let es ← writeAll avoid .test es
    return "\x7b" ++ ", ".intercalate es ++ "\x7d"
  | .comprehension form e cs _ => do
    let e ← e.write avoid .test
    let cs ← writeClauses avoid cs
    return match form with
      | .list => "[" ++ e ++ cs ++ "]"
      | .set => "\x7b" ++ e ++ cs ++ "\x7d"
      | .generator => "(" ++ e ++ cs ++ ")"
  | .dictComprehension k v cs _ => do
    let k ← k.write avoid .test
    let v ← v.write avoid .test
    let cs ← writeClauses avoid cs
    return "\x7b" ++ k ++ ": " ++ v ++ cs ++ "\x7d"
  | .await e _ => do
    let e ← e.write avoid .atom
    return parenthesize place .await ("await " ++ e)
  | .yield e _ => do
    match e with
    | none => return parenthesize place .yield "yield"
    | some e =>
      let e ← e.write avoid .atom
      return parenthesize place .yield ("yield " ++ e)
  | .yieldFrom e _ => do
    let e ← e.write avoid .atom
    return parenthesize place .yield ("yield from " ++ e)
  | .compare l rest _ => do
    let l ← l.write avoid (Level.tighter .compare)
    let rest ← writeComparisons avoid rest
    return parenthesize place .compare (l ++ rest)
  | .call f args kws _ => do
    let f ← f.write avoid .atom
    let args ← writeAll avoid .test args
    let kws ← writeKeywords avoid kws
    return f ++ "(" ++ ", ".intercalate (args ++ kws) ++ ")"
  | .formatted e c spec _ => do
    -- No backslash may stand in a field, so all texts below it choose their quotes with care.
    let e ← e.write true (Level.tighter .test)
    let e ← withoutBackslash e
    let format ← writeFormat spec
    return fieldText e c format
  | .joined es _ => do
    let parts ← writeParts es
    if avoid then return "f" ++ fitted allQuotes (parts.flatMap (·.1))
    else return "f" ++ joinFields parts
  | .constant v marked _ => do
    let text ← v.asText avoid
    return (if marked then "u" else "") ++ text
  | .attribute e attr _ _ => do
    let text ← e.write avoid .atom
    return text ++ (if e.isIntegerLiteral then " ." else ".") ++ attr
  | .subscript e s _ _ => do
    let e ← e.write avoid .atom
    match s with
    | .tuple (first :: rest) _ _ =>
      let first ← first.write avoid .test
      let rest ← writeAll avoid .test rest
      return e ++ "[" ++ commaTuple (first :: rest) ++ "]"
    | s =>
      let s ← s.write avoid .test
      return e ++ "[" ++ s ++ "]"
  | .starred e _ _ => do
    let e ← e.write avoid .union
    return "*" ++ e
  | .name id _ _ => return id
  | .list es _ _ => do
    let es ← writeAll avoid .test es
    return "[" ++ ", ".intercalate es ++ "]"
  | .tuple es _ _ => do
    let texts ← writeAll avoid .test es
    let text := commaTuple texts
    return if es.isEmpty then "()" else parenthesize place .tuple text
  | .slice l u s _ => do
    let l ← match l with
      | none => pure ""
      | some l => l.write avoid .test
    let u ← match u with
      | none => pure ""
      | some u => u.write avoid .test
    let s ← match s with
      | none => pure ""
      | some s => do
        let s ← s.write avoid .test
        pure (":" ++ s)
    return l ++ ":" ++ u ++ s

/-- The texts of expressions at one level. -/
def writeAll (avoid : Bool) (place : Level) : List Expr → Except WriteError (List String)
  | [] => return []
  | e :: es => do
    let e ← e.write avoid place
    let es ← writeAll avoid place es
    return e :: es

/-- The texts of operands, each at a tighter level than the one before it. -/
def writeIncreasing (avoid : Bool) (place : Level) : List Expr → Except WriteError (List String)
  | [] => return []
  | e :: es => do
    let e ← e.write avoid place.tighter
    let es ← writeIncreasing avoid place.tighter es
    return e :: es

/-- The texts of dictionary entries. -/
def writeItems (avoid : Bool) : List DictItem → Except WriteError (List String)
  | [] => return []
  | ⟨key, value⟩ :: items => do
    let item ← match key with
      | none => do
        let v ← value.write avoid .union
        pure ("**" ++ v)
      | some k => do
        let k ← k.write avoid .test
        let v ← value.write avoid .test
        pure (k ++ ": " ++ v)
    let items ← writeItems avoid items
    return item :: items

/-- The text of the operators and operands after the first operand. -/
def writeComparisons (avoid : Bool) : List Comparison → Except WriteError String
  | [] => return ""
  | ⟨op, e⟩ :: rest => do
    let e ← e.write avoid (Level.tighter .compare)
    let rest ← writeComparisons avoid rest
    return " " ++ op.text ++ " " ++ e ++ rest

/-- The texts of keyword arguments. -/
def writeKeywords (avoid : Bool) : List Keyword → Except WriteError (List String)
  | [] => return []
  | ⟨arg, value, _⟩ :: rest => do
    let v ← value.write avoid .test
    let rest ← writeKeywords avoid rest
    return (match arg with | none => "**" ++ v | some a => a ++ "=" ++ v) :: rest

/-- The text of the clauses of a comprehension. -/
def writeClauses (avoid : Bool) : List Clause → Except WriteError String
  | [] => return ""
  | ⟨target, iter, conditions, isAsync⟩ :: rest => do
    let target ← target.write avoid .tuple
    let iter ← iter.write avoid (Level.tighter .test)
    let conditions ← writeAll avoid (Level.tighter .test) conditions
    let rest ← writeClauses avoid rest
    return (if isAsync then " async for " else " for ") ++ target ++ " in " ++ iter ++
      String.join (conditions.map (" if " ++ ·)) ++ rest

/-- The format of a replacement field, after its colon. -/
def writeFormat : Option Expr → Except WriteError String
  | none => return ""
  | some (.joined es _) => do
    let parts ← writeParts es
    return ":" ++ String.ofList (parts.flatMap fun p => p.1.map Char.ofNat)
  | some e => do
    let e ← e.write true .test
    return ":" ++ e

/-- The parts of a literal with fields, each with whether it is a literal stretch. -/
def writeParts : List Expr → Except WriteError (List (List Nat × Bool))
  | [] => return []
  | e :: es => do
    let part ← match e with
      | .constant (.text s) _ _ => pure (doubleBraces (codesOf s), true)
      | .constant (.surrogates codes) _ _ => pure (doubleBraces codes, true)
      | e => do
        let text ← e.write true .test
        pure (codesOf text, false)
    let es ← writeParts es
    return part :: es

/-- The text of parameters, without the parentheses around them. -/
def Parameters.write (avoid : Bool) : Parameters → Except WriteError String
  | ⟨positionalOnly, positional, variadic, keywordOnly, keywordVariadic, defaults⟩ => do
    let only ← writeParameters avoid positionalOnly
    let both ← writeParameters avoid positional
    let defaults ← writeAll avoid .test defaults
    let count := only.length + both.length
    let defaults := List.replicate (count - defaults.length) none ++ defaults.map some
    let withDefault := (only ++ both).zipWith
      (fun p d => match d with | none => p | some d => p ++ "=" ++ d) defaults
    let plain := withDefault.take only.length ++ (if only.isEmpty then [] else ["/"]) ++
      withDefault.drop only.length
    let star ← match variadic with
      | none => pure (if keywordOnly.isEmpty then [] else ["*"])
      | some p => do
        let p ← p.write avoid
        pure ["*" ++ p]
    let kws ← writeKeywordOnly avoid keywordOnly
    let mapping ← match keywordVariadic with
      | none => pure []
      | some p => do
        let p ← p.write avoid
        pure ["**" ++ p]
    return ", ".intercalate (plain ++ star ++ kws ++ mapping)

/-- The text of a parameter. -/
def Parameter.write (avoid : Bool) : Parameter → Except WriteError String
  | ⟨name, hint, _⟩ => do
    match hint with
    | none => return name
    | some a =>
      let a ← a.write avoid .test
      return name ++ ": " ++ a

/-- The texts of parameters. -/
def writeParameters (avoid : Bool) : List Parameter → Except WriteError (List String)
  | [] => return []
  | p :: ps => do
    let p ← p.write avoid
    let ps ← writeParameters avoid ps
    return p :: ps

/-- The texts of parameters given by keyword only. -/
def writeKeywordOnly (avoid : Bool) : List KeywordParameter → Except WriteError (List String)
  | [] => return []
  | ⟨p, d⟩ :: ps => do
    let p ← p.write avoid
    let text ← match d with
      | none => pure p
      | some d => do
        let d ← d.write avoid .test
        pure (p ++ "=" ++ d)
    let ps ← writeKeywordOnly avoid ps
    return text :: ps

end

/-- The text of an expression that stands alone. -/
def Expr.text (e : Expr) : Except WriteError String := e.write false .test

/-! ## Patterns -/

mutual

/-- The text of a pattern. -/
def Pattern.write (place : Level) : Pattern → Except WriteError String
  | .value e _ => e.write false .test
  | .singleton v _ => v.asText false
  | .sequence ps _ => do
    let ps ← writePatterns .test ps
    return "[" ++ ", ".intercalate ps ++ "]"
  | .mapping es rest _ => do
    let es ← writeEntries es
    let rest := match rest with | none => [] | some id => ["**" ++ id]
    return "\x7b" ++ ", ".intercalate (es ++ rest) ++ "\x7d"
  | .cls c ps ks _ => do
    let c ← c.write false .atom
    let ps ← writePatterns .test ps
    let ks ← writeKeywordPatterns ks
    return c ++ "(" ++ ", ".intercalate (ps ++ ks) ++ ")"
  | .star id _ => return "*" ++ id.getD "_"
  | .capture p id _ => do
    match id, p with
    | none, _ => return "_"
    | some id, none => return id
    | some id, some p =>
      let p ← p.write .union
      return parenthesize place .test (p ++ " as " ++ id)
  | .either ps _ => do
    let ps ← writePatterns (Level.tighter .union) ps
    return parenthesize place .union (" | ".intercalate ps)

/-- The texts of patterns at one level. -/
def writePatterns (place : Level) : List Pattern → Except WriteError (List String)
  | [] => return []
  | p :: ps => do
    let p ← p.write place
    let ps ← writePatterns place ps
    return p :: ps

/-- The texts of the entries of a mapping pattern. -/
def writeEntries : List PatternEntry → Except WriteError (List String)
  | [] => return []
  | ⟨k, p⟩ :: es => do
    let k ← k.write false .test
    let p ← p.write .test
    let es ← writeEntries es
    return (k ++ ": " ++ p) :: es

/-- The texts of the keywords of a class pattern. -/
def writeKeywordPatterns : List KeywordPattern → Except WriteError (List String)
  | [] => return []
  | ⟨attr, p⟩ :: ks => do
    let p ← p.write .test
    let ks ← writeKeywordPatterns ks
    return (attr ++ "=" ++ p) :: ks

end

/-! ## Statements -/

/-- A line at a depth of indentation, with the line feed before it. -/
def line (indent : Nat) (s : String) : String :=
  "\n" ++ String.ofList (List.replicate (4 * indent) ' ') ++ s

/-- The text of an optional expression after some words; nothing if it is left out. -/
def writeAfter (words : String) : Option Expr → Except WriteError String
  | none => return ""
  | some e => do
    let e ← e.text
    return words ++ e

/-- The text of an imported name. -/
def Alias.write (a : Alias) : String :=
  match a.asName with
  | none => a.name
  | some n => a.name ++ " as " ++ n

/-- The text of a context manager. -/
def WithItem.write (w : WithItem) : Except WriteError String := do
  let e ← w.context.text
  let t ← writeAfter " as " w.target
  return e ++ t

/-- The code points of a text that stands alone as a statement, with its mark. -/
def Stmt.loneText? : Stmt → Option (List Nat × Bool)
  | .expr (.constant (.text s) marked _) _ => some (codesOf s, marked)
  | .expr (.constant (.surrogates codes) marked _) _ => some (codes, marked)
  | _ => none

/-- Whether the statement is an `if`. -/
def Stmt.isIf : Stmt → Bool
  | .if _ _ _ _ => true
  | _ => false

/-- The lines of decorators, after the empty line that functions and classes have before them. -/
def writeDecorators (indent : Nat) (decorators : List Expr) : Except WriteError String := do
  let texts ← decorators.mapM Expr.text
  return "\n" ++ String.join (texts.map fun t => line indent ("@" ++ t))

mutual

/-- The lines of a statement.  An `if` begins with the given word. -/
def Stmt.write (indent : Nat) (ifWord : String) : Stmt → Except WriteError String
  | .function isAsync id ps body decorators returns _ => do
    let head ← writeDecorators indent decorators
    let ps ← ps.write false
    let returns ← writeAfter " -> " returns
    let body ← writeBody (indent + 1) body
    return head ++ line indent ((if isAsync then "async def " else "def ") ++ id ++ "(" ++ ps ++ ")"
      ++ returns ++ ":") ++ body
  | .classDef id bases kws body decorators _ => do
    let head ← writeDecorators indent decorators
    let bases ← writeAll false .test bases
    let kws ← writeKeywords false kws
    let args := bases ++ kws
    let args := if args.isEmpty then "" else "(" ++ ", ".intercalate args ++ ")"
    let body ← writeBody (indent + 1) body
    return head ++ line indent ("class " ++ id ++ args ++ ":") ++ body
  | .ret v _ => do
    let v ← writeAfter " " v
    return line indent ("return" ++ v)
  | .delete ts _ => do
    let ts ← writeAll false .test ts
    return line indent ("del " ++ ", ".intercalate ts)
  | .assign ts v _ => do
    let ts ← writeAll false .tuple ts
    let v ← v.text
    return line indent (String.join (ts.map (· ++ " = ")) ++ v)
  | .augAssign t op v _ => do
    let t ← t.text
    let v ← v.text
    return line indent (t ++ " " ++ op.text ++ "= " ++ v)
  | .annAssign t a v simple _ => do
    -- A name that was written in parentheses stays in them: its annotation is not recorded.
    let bare := match t with | .name _ _ _ => !simple | _ => false
    let t ← t.text
    let t := if bare then "(" ++ t ++ ")" else t
    let a ← a.text
    let v ← writeAfter " = " v
    return line indent (t ++ ": " ++ a ++ v)
  | .for isAsync t i body orElse _ => do
    let t ← t.write false .tuple
    let i ← i.text
    let body ← writeBlock (indent + 1) body
    let orElse ← writeLabelled indent "else" orElse
    return line indent ((if isAsync then "async for " else "for ") ++ t ++ " in " ++ i ++ ":") ++
      body ++ orElse
  | .while t body orElse _ => do
    let t ← t.text
    let body ← writeBlock (indent + 1) body
    let orElse ← writeLabelled indent "else" orElse
    return line indent ("while " ++ t ++ ":") ++ body ++ orElse
  | .if t body orElse _ => do
    let t ← t.text
    let body ← writeBlock (indent + 1) body
    let orElse ← writeOrElse indent orElse
    return line indent (ifWord ++ " " ++ t ++ ":") ++ body ++ orElse
  | .with isAsync items body _ => do
    let items ← items.mapM WithItem.write
    let body ← writeBlock (indent + 1) body
    return line indent ((if isAsync then "async with " else "with ") ++ ", ".intercalate items ++
      ":") ++ body
  | .match e cs _ => do
    let e ← e.text
    let cs ← writeCases (indent + 1) cs
    return line indent ("match " ++ e ++ ":") ++ cs
  | .raise e c _ => do
    let e ← writeAfter " " e
    let c ← writeAfter " from " c
    return line indent ("raise" ++ e ++ c)
  | .try isGroup body hs orElse final _ => do
    let body ← writeBlock (indent + 1) body
    let hs ← writeHandlers indent isGroup hs
    let orElse ← writeLabelled indent "else" orElse
    let final ← writeLabelled indent "finally" final
    return line indent "try:" ++ body ++ hs ++ orElse ++ final
  | .assert t m _ => do
    let t ← t.text
    let m ← writeAfter ", " m
    return line indent ("assert " ++ t ++ m)
  | .importModules names _ => return line indent ("import " ++ ", ".intercalate (names.map Alias.write))
  | .importFrom module names level _ =>
    return line indent ("from " ++ String.ofList (List.replicate level '.') ++ module.getD "" ++
      " import " ++ ", ".intercalate (names.map Alias.write))
  | .global names _ => return line indent ("global " ++ ", ".intercalate names)
  | .nonlocal names _ => return line indent ("nonlocal " ++ ", ".intercalate names)
  | .expr e _ => do
    let e ← e.write false .yield
    return line indent e
  | .pass _ => return line indent "pass"
  | .break _ => return line indent "break"
  | .continue _ => return line indent "continue"

/-- The lines of statements. -/
def writeBlock (indent : Nat) : List Stmt → Except WriteError String
  | [] => return ""
  | s :: ss => do
    let s ← s.write indent "if"
    let ss ← writeBlock indent ss
    return s ++ ss

/-- The lines of a body whose first statement may describe it: a text there gets long quotes. -/
def writeBody (indent : Nat) : List Stmt → Except WriteError String
  | [] => return ""
  | s :: ss => do
    let first ← match s.loneText? with
      | some (codes, marked) =>
        pure (line indent ((if marked then "u" else "") ++ fitted longQuotes codes))
      | none => s.write indent "if"
    let ss ← writeBlock indent ss
    return first ++ ss

/-- A word with a block after it; nothing if the block is empty. -/
def writeLabelled (indent : Nat) (word : String) : List Stmt → Except WriteError String
  | [] => return ""
  | s :: ss => do
    let s ← s.write (indent + 1) "if"
    let ss ← writeBlock (indent + 1) ss
    return line indent (word ++ ":") ++ s ++ ss

/-- What follows the block of an `if`: an `if` alone becomes an `elif`. -/
def writeOrElse (indent : Nat) : List Stmt → Except WriteError String
  | [] => return ""
  | s :: ss => do
    if s.isIf && ss.isEmpty then s.write indent "elif"
    else
      let s ← s.write (indent + 1) "if"
      let ss ← writeBlock (indent + 1) ss
      return line indent "else:" ++ s ++ ss

/-- The lines of handlers. -/
def writeHandlers (indent : Nat) (isGroup : Bool) : List Handler → Except WriteError String
  | [] => return ""
  | ⟨type, name, body, _⟩ :: hs => do
    let type ← writeAfter " " type
    let name := match name with | none => "" | some n => " as " ++ n
    let body ← writeBlock (indent + 1) body
    let hs ← writeHandlers indent isGroup hs
    return line indent ((if isGroup then "except*" else "except") ++ type ++ name ++ ":") ++ body ++
      hs

/-- The lines of the cases of a `match`. -/
def writeCases (indent : Nat) : List MatchCase → Except WriteError String
  | [] => return ""
  | ⟨p, guard, body⟩ :: cs => do
    let p ← p.write .test
    let guard ← writeAfter " if " guard
    let body ← writeBlock (indent + 1) body
    let cs ← writeCases indent cs
    return line indent ("case " ++ p ++ guard ++ ":") ++ body ++ cs

end

/-- Lines without the line feeds before the first one. -/
def dropLeadingLines (s : String) : String :=
  String.ofList (s.toList.dropWhile (· == '\n'))

/-- The text of one statement. -/
def Stmt.text (s : Stmt) : Except WriteError String := do
  let s ← s.write 0 "if"
  return dropLeadingLines s

/-- The text of a module. -/
def Module.text (m : Module) : Except WriteError String := do
  let s ← writeBody 0 m.body
  return dropLeadingLines s

end Standin.Source
