/-
Reading trees from records.

A record is read from its parts up: when a node is read, its parts are trees
already, so that only the names of classes and parts are looked at.  A record
with a part missing, or with a part of another kind, is no tree.
-/
import Standin.Source.Record

set_option autoImplicit false

namespace Standin.Source

namespace Record

/-- A record that has been read: a tree of some kind, or something smaller. -/
inductive Part where
  | absent
  | flag (b : Bool)
  | number (n : Int)
  | text (s : String)
  | literal (v : Literal)
  | list (items : List Part)
  | expr (e : Expr)
  | clause (c : Clause)
  | keyword (k : Keyword)
  | parameter (p : Parameter)
  | parameters (p : Parameters)
  | pattern (p : Pattern)
  | withItem (w : WithItem)
  | alias (a : Alias)
  | stmt (s : Stmt)
  | handler (h : Handler)
  | matchCase (c : MatchCase)
  | module (m : Module)

namespace Part

def expr? : Part → Option Expr
  | .expr e => some e
  | _ => none

def pattern? : Part → Option Pattern
  | .pattern p => some p
  | _ => none

def stmt? : Part → Option Stmt
  | .stmt s => some s
  | _ => none

def text? : Part → Option String
  | .text s => some s
  | _ => none

def clause? : Part → Option Clause
  | .clause c => some c
  | _ => none

def keyword? : Part → Option Keyword
  | .keyword k => some k
  | _ => none

def parameter? : Part → Option Parameter
  | .parameter p => some p
  | _ => none

def parameters? : Part → Option Parameters
  | .parameters p => some p
  | _ => none

def withItem? : Part → Option WithItem
  | .withItem w => some w
  | _ => none

def alias? : Part → Option Alias
  | .alias a => some a
  | _ => none

def handler? : Part → Option Handler
  | .handler h => some h
  | _ => none

def matchCase? : Part → Option MatchCase
  | .matchCase c => some c
  | _ => none

def nat? : Part → Option Nat
  | .number (.ofNat n) => some n
  | _ => none

/-- A yes or no given as a number. -/
def bit? : Part → Option Bool
  | .number n => some (n != 0)
  | _ => none

/-- The value of a literal; the plain kinds stand for themselves. -/
def literal? : Part → Option Literal
  | .absent => some .none
  | .flag b => some (.bool b)
  | .text s => some (.text s)
  | .literal v => some v
  | _ => none

/-- A thing that may be absent. -/
def optional {α : Type} (read : Part → Option α) : Part → Option (Option α)
  | .absent => some none
  | p => (read p).map some

/-- A list of things. -/
def many {α : Type} (read : Part → Option α) : Part → Option (List α)
  | .list items => items.mapM read
  | _ => none

/-- The thing that a text names. -/
def named {α : Type} (t : NameTable α) (p : Part) : Option α := p.text?.bind t.named?

/-- The conversion with a code. -/
def conversion? : Part → Option (Option Conversion)
  | .number n => some ((conversionCodes.find? fun e => e.1 = n).map Prod.snd)
  | _ => none

end Part

/-- The parts of a node, by name. -/
abbrev Parts := List (String × Part)

namespace Parts

/-- A part by its name; what is not there is absent. -/
def get (ps : Parts) (name : String) : Part :=
  ((ps.find? (·.1 = name)).map Prod.snd).getD .absent

def expr (ps : Parts) (name : String) : Option Expr := (ps.get name).expr?

def expr? (ps : Parts) (name : String) : Option (Option Expr) := (ps.get name).optional Part.expr?

def exprs (ps : Parts) (name : String) : Option (List Expr) := (ps.get name).many Part.expr?

def text (ps : Parts) (name : String) : Option String := (ps.get name).text?

def text? (ps : Parts) (name : String) : Option (Option String) := (ps.get name).optional Part.text?

def texts (ps : Parts) (name : String) : Option (List String) := (ps.get name).many Part.text?

def usage (ps : Parts) : Option Usage := (ps.get "ctx").named usageNames

def clauses (ps : Parts) : Option (List Clause) := (ps.get "generators").many Part.clause?

def keywords (ps : Parts) : Option (List Keyword) := (ps.get "keywords").many Part.keyword?

def patterns (ps : Parts) (name : String) : Option (List Pattern) := (ps.get name).many Part.pattern?

def body (ps : Parts) (name : String) : Option (List Stmt) := (ps.get name).many Part.stmt?

def aliases (ps : Parts) : Option (List Alias) := (ps.get "names").many Part.alias?

end Parts

/-- Reads an expression from its parts. -/
def readExpr (cls : String) (s : Span) (ps : Parts) : Option Expr := do
  match cls with
  | "BoolOp" => return .boolOp (← (ps.get "op").named boolOpNames) (← ps.exprs "values") s
  | "NamedExpr" => return .named (← ps.expr "target") (← ps.expr "value") s
  | "BinOp" =>
    return .binary (← ps.expr "left") (← (ps.get "op").named binaryOpNames) (← ps.expr "right") s
  | "UnaryOp" => return .unary (← (ps.get "op").named unaryOpNames) (← ps.expr "operand") s
  | "Lambda" => return .lambda (← (ps.get "args").parameters?) (← ps.expr "body") s
  | "IfExp" => return .conditional (← ps.expr "test") (← ps.expr "body") (← ps.expr "orelse") s
  | "Dict" =>
    let keys ← (ps.get "keys").many (Part.optional Part.expr?)
    let values ← ps.exprs "values"
    return .dict ((keys.zip values).map fun e => ⟨e.1, e.2⟩) s
  | "Set" => return .set (← ps.exprs "elts") s
  | "DictComp" => return .dictComprehension (← ps.expr "key") (← ps.expr "value") (← ps.clauses) s
  | "Await" => return .await (← ps.expr "value") s
  | "Yield" => return .yield (← ps.expr? "value") s
  | "YieldFrom" => return .yieldFrom (← ps.expr "value") s
  | "Compare" =>
    let ops ← (ps.get "ops").many (Part.named compareOpNames)
    let operands ← ps.exprs "comparators"
    return .compare (← ps.expr "left") ((ops.zip operands).map fun e => ⟨e.1, e.2⟩) s
  | "Call" => return .call (← ps.expr "func") (← ps.exprs "args") (← ps.keywords) s
  | "FormattedValue" =>
    return .formatted (← ps.expr "value") (← (ps.get "conversion").conversion?)
      (← ps.expr? "format_spec") s
  | "JoinedStr" => return .joined (← ps.exprs "values") s
  | "Constant" =>
    return .constant (← (ps.get "value").literal?) (← ps.text? "kind").isSome s
  | "Attribute" => return .attribute (← ps.expr "value") (← ps.text "attr") (← ps.usage) s
  | "Subscript" => return .subscript (← ps.expr "value") (← ps.expr "slice") (← ps.usage) s
  | "Starred" => return .starred (← ps.expr "value") (← ps.usage) s
  | "Name" => return .name (← ps.text "id") (← ps.usage) s
  | "List" => return .list (← ps.exprs "elts") (← ps.usage) s
  | "Tuple" => return .tuple (← ps.exprs "elts") (← ps.usage) s
  | "Slice" => return .slice (← ps.expr? "lower") (← ps.expr? "upper") (← ps.expr? "step") s
  | cls =>
    return .comprehension (← comprehensionNames.named? cls) (← ps.expr "elt") (← ps.clauses) s

/-- Reads a pattern from its parts. -/
def readPattern (cls : String) (s : Span) (ps : Parts) : Option Pattern := do
  match cls with
  | "MatchValue" => return .value (← ps.expr "value") s
  | "MatchSingleton" => return .singleton (← (ps.get "value").literal?) s
  | "MatchSequence" => return .sequence (← ps.patterns "patterns") s
  | "MatchMapping" =>
    let keys ← ps.exprs "keys"
    let patterns ← ps.patterns "patterns"
    return .mapping ((keys.zip patterns).map fun e => ⟨e.1, e.2⟩) (← ps.text? "rest") s
  | "MatchClass" =>
    let attrs ← ps.texts "kwd_attrs"
    let patterns ← ps.patterns "kwd_patterns"
    return .cls (← ps.expr "cls") (← ps.patterns "patterns")
      ((attrs.zip patterns).map fun e => ⟨e.1, e.2⟩) s
  | "MatchStar" => return .star (← ps.text? "name") s
  | "MatchAs" =>
    return .capture (← (ps.get "pattern").optional Part.pattern?) (← ps.text? "name") s
  | "MatchOr" => return .either (← ps.patterns "patterns") s
  | _ => none

/-- Reads a statement from its parts. -/
def readStmt (cls : String) (s : Span) (ps : Parts) : Option Stmt := do
  match cls with
  | "FunctionDef" | "AsyncFunctionDef" =>
    return .function (cls == "AsyncFunctionDef") (← ps.text "name") (← (ps.get "args").parameters?)
      (← ps.body "body") (← ps.exprs "decorator_list") (← ps.expr? "returns") s
  | "ClassDef" =>
    return .classDef (← ps.text "name") (← ps.exprs "bases") (← ps.keywords) (← ps.body "body")
      (← ps.exprs "decorator_list") s
  | "Return" => return .ret (← ps.expr? "value") s
  | "Delete" => return .delete (← ps.exprs "targets") s
  | "Assign" => return .assign (← ps.exprs "targets") (← ps.expr "value") s
  | "AugAssign" =>
    return .augAssign (← ps.expr "target") (← (ps.get "op").named binaryOpNames) (← ps.expr "value") s
  | "AnnAssign" =>
    return .annAssign (← ps.expr "target") (← ps.expr "annotation") (← ps.expr? "value")
      (← (ps.get "simple").bit?) s
  | "For" | "AsyncFor" =>
    return .for (cls == "AsyncFor") (← ps.expr "target") (← ps.expr "iter") (← ps.body "body")
      (← ps.body "orelse") s
  | "While" => return .while (← ps.expr "test") (← ps.body "body") (← ps.body "orelse") s
  | "If" => return .if (← ps.expr "test") (← ps.body "body") (← ps.body "orelse") s
  | "With" | "AsyncWith" =>
    return .with (cls == "AsyncWith") (← (ps.get "items").many Part.withItem?) (← ps.body "body") s
  | "Match" => return .match (← ps.expr "subject") (← (ps.get "cases").many Part.matchCase?) s
  | "Raise" => return .raise (← ps.expr? "exc") (← ps.expr? "cause") s
  | "Try" | "TryStar" =>
    return .try (cls == "TryStar") (← ps.body "body") (← (ps.get "handlers").many Part.handler?)
      (← ps.body "orelse") (← ps.body "finalbody") s
  | "Assert" => return .assert (← ps.expr "test") (← ps.expr? "msg") s
  | "Import" => return .importModules (← ps.aliases) s
  | "ImportFrom" =>
    return .importFrom (← ps.text? "module") (← ps.aliases) (← (ps.get "level").nat?) s
  | "Global" => return .global (← ps.texts "names") s
  | "Nonlocal" => return .nonlocal (← ps.texts "names") s
  | "Expr" => return .expr (← ps.expr "value") s
  | "Pass" => return .pass s
  | "Break" => return .break s
  | "Continue" => return .continue s
  | _ => none

/-- Reads the parameters of a function from their parts. -/
def readParameters (ps : Parts) : Option Parameters := do
  let many (name : String) : Option (List Parameter) := (ps.get name).many Part.parameter?
  let keywordOnly ← many "kwonlyargs"
  let keywordDefaults ← (ps.get "kw_defaults").many (Part.optional Part.expr?)
  return {
    positionalOnly := ← many "posonlyargs"
    positional := ← many "args"
    variadic := ← (ps.get "vararg").optional Part.parameter?
    keywordOnly := (keywordOnly.zip keywordDefaults).map fun e => ⟨e.1, e.2⟩
    keywordVariadic := ← (ps.get "kwarg").optional Part.parameter?
    defaults := ← ps.exprs "defaults" }

/-- Reads a node from its parts. -/
def readNode (cls : String) (span : Option Span) (ps : Parts) : Option Part := do
  let s := span.getD default
  match cls with
  | "Module" => return .module ⟨← ps.body "body"⟩
  | "arguments" => return .parameters (← readParameters ps)
  | "arg" => return .parameter ⟨← ps.text "arg", ← ps.expr? "annotation", s⟩
  | "keyword" => return .keyword ⟨← ps.text? "arg", ← ps.expr "value", s⟩
  | "comprehension" =>
    return .clause ⟨← ps.expr "target", ← ps.expr "iter", ← ps.exprs "ifs",
      ← (ps.get "is_async").bit?⟩
  | "alias" => return .alias ⟨← ps.text "name", ← ps.text? "asname", s⟩
  | "withitem" => return .withItem ⟨← ps.expr "context_expr", ← ps.expr? "optional_vars"⟩
  | "ExceptHandler" =>
    return .handler ⟨← ps.expr? "type", ← ps.text? "name", ← ps.body "body", s⟩
  | "match_case" =>
    return .matchCase ⟨← (ps.get "pattern").pattern?, ← ps.expr? "guard", ← ps.body "body"⟩
  | cls =>
    ((readExpr cls s ps).map Part.expr) <|> ((readPattern cls s ps).map Part.pattern) <|>
      ((readStmt cls s ps).map Part.stmt)

mutual

/-- Reads a record, its parts first. -/
def read : Record → Option Part
  | .absent => some .absent
  | .flag b => some (.flag b)
  | .number n => some (.number n)
  | .text s => some (.text s)
  | .literal v => some (.literal v)
  | .list items => (readItems items).map .list
  | .node cls span fields => (readFields fields).bind (readNode cls span)

def readItems : List Record → Option (List Part)
  | [] => some []
  | r :: rest => do return (← r.read) :: (← readItems rest)

def readFields : List (String × Record) → Option Parts
  | [] => some []
  | (name, r) :: rest => do return (name, ← r.read) :: (← readFields rest)

end

/-- The expression that a record holds. -/
def expr? (r : Record) : Option Expr := r.read.bind Part.expr?

/-- The module that a record holds. -/
def module? (r : Record) : Option Module :=
  r.read.bind fun
    | .module m => some m
    | _ => none

end Record

end Standin.Source
