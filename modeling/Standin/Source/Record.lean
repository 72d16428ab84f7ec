/-
Trees as records, the form in which tools exchange them.

A record has the name of its class, its parts by name, and its place if it has
one.  This file gives the record of every tree; reading a record back is in
`Source.Record.Reading`.
-/
import Standin.Source.Tree

set_option autoImplicit false

namespace Standin.Source

/-- A tree in the form of records. -/
inductive Record where
  | absent
  | flag (b : Bool)
  | number (n : Int)
  | text (s : String)
  | literal (v : Literal)
  | list (items : List Record)
  | node (cls : String) (span : Option Span) (fields : List (String × Record))

instance : Inhabited Record := ⟨.absent⟩

/-! ## Names of operators and forms -/

/-- The names of one kind of thing. -/
abbrev NameTable (α : Type) := List (String × α)

/-- The name of a thing. -/
def NameTable.nameOf {α : Type} [DecidableEq α] (t : NameTable α) (a : α) : String :=
  ((t.find? (·.2 = a)).map Prod.fst).getD ""

/-- The thing with a name. -/
def NameTable.named? {α : Type} (t : NameTable α) (name : String) : Option α :=
  (t.find? (·.1 = name)).map Prod.snd

def boolOpNames : NameTable BoolOp := [("And", .and), ("Or", .or)]

def unaryOpNames : NameTable UnaryOp :=
  [("Invert", .invert), ("Not", .not), ("UAdd", .plus), ("USub", .minus)]

def binaryOpNames : NameTable BinaryOp :=
  [("Add", .add), ("Sub", .sub), ("Mult", .mul), ("MatMult", .matMul), ("Div", .div), ("Mod", .mod),
   ("Pow", .pow), ("LShift", .shiftLeft), ("RShift", .shiftRight), ("BitOr", .bitOr),
   ("BitXor", .bitXor), ("BitAnd", .bitAnd), ("FloorDiv", .floorDiv)]

def compareOpNames : NameTable CompareOp :=
  [("Eq", .eq), ("NotEq", .notEq), ("Lt", .lt), ("LtE", .le), ("Gt", .gt), ("GtE", .ge),
   ("Is", .is), ("IsNot", .isNot), ("In", .isIn), ("NotIn", .notIn)]

def usageNames : NameTable Usage := [("Load", .load), ("Store", .store), ("Del", .delete)]

def comprehensionNames : NameTable ComprehensionForm :=
  [("ListComp", .list), ("SetComp", .set), ("GeneratorExp", .generator)]

/-- Conversions by the codes of the letters that ask for them. -/
def conversionCodes : List (Int × Conversion) := [(115, .string), (114, .quoted), (97, .ascii)]

namespace Record

/-- The text of a name that may be missing. -/
def ofText? : Option String → Record
  | none => .absent
  | some s => .text s

/-- A list of texts. -/
def ofTexts (l : List String) : Record := .list (l.map .text)

/-- A yes or no as a number. -/
def ofBit (b : Bool) : Record := .number (if b then 1 else 0)

def ofUsage (u : Usage) : Record := .text (usageNames.nameOf u)

/-- The code of a conversion, or `-1` for none. -/
def ofConversion (c : Option Conversion) : Record :=
  .number (((conversionCodes.find? fun e => some e.2 = c).map Prod.fst).getD (-1))

def ofAlias (a : Alias) : Record :=
  .node "alias" (some a.span) [("name", .text a.name), ("asname", ofText? a.asName)]

end Record

open Record (ofText? ofTexts ofBit ofUsage ofConversion ofAlias)

/-! ## Expressions -/

mutual

/-- The record of an expression. -/
def Expr.record : Expr → Record
  | .boolOp op es s =>
    .node "BoolOp" (some s) [("op", .text (boolOpNames.nameOf op)), ("values", .list (exprRecords es))]
  | .named t v s => .node "NamedExpr" (some s) [("target", t.record), ("value", v.record)]
  | .binary l op r s =>
    .node "BinOp" (some s)
      [("left", l.record), ("op", .text (binaryOpNames.nameOf op)), ("right", r.record)]
  | .unary op e s =>
    .node "UnaryOp" (some s) [("op", .text (unaryOpNames.nameOf op)), ("operand", e.record)]
  | .lambda ps b s => .node "Lambda" (some s) [("args", ps.record), ("body", b.record)]
  | .conditional t b o s =>
    .node "IfExp" (some s) [("test", t.record), ("body", b.record), ("orelse", o.record)]
  | .dict items s =>
    .node "Dict" (some s) [("keys", .list (keyRecords items)), ("values", .list (valueRecords items))]
  | .set es s => .node "Set" (some s) [("elts", .list (exprRecords es))]
  | .comprehension form e cs s =>
    .node (comprehensionNames.nameOf form) (some s)
      [("elt", e.record), ("generators", .list (clauseRecords cs))]
  | .dictComprehension k v cs s =>
    .node "DictComp" (some s)
      [("key", k.record), ("value", v.record), ("generators", .list (clauseRecords cs))]
  | .await e s => .node "Await" (some s) [("value", e.record)]
  | .yield e s => .node "Yield" (some s) [("value", exprRecord? e)]
  | .yieldFrom e s => .node "YieldFrom" (some s) [("value", e.record)]
  | .compare l rest s =>
    .node "Compare" (some s)
      [("left", l.record), ("ops", .list (rest.map fun c => .text (compareOpNames.nameOf c.op))),
       ("comparators", .list (operandRecords rest))]
  | .call f args kws s =>
    .node "Call" (some s)
      [("func", f.record), ("args", .list (exprRecords args)), ("keywords", .list (keywordRecords kws))]
  | .formatted v c spec s =>
    .node "FormattedValue" (some s)
      [("value", v.record), ("conversion", ofConversion c), ("format_spec", exprRecord? spec)]
  | .joined es s => .node "JoinedStr" (some s) [("values", .list (exprRecords es))]
  | .constant v marked s =>
    .node "Constant" (some s)
      [("value", .literal v), ("kind", if marked then .text "u" else .absent)]
  | .attribute e a u s =>
    .node "Attribute" (some s) [("value", e.record), ("attr", .text a), ("ctx", ofUsage u)]
  | .subscript e i u s =>
    .node "Subscript" (some s) [("value", e.record), ("slice", i.record), ("ctx", ofUsage u)]
  | .starred e u s => .node "Starred" (some s) [("value", e.record), ("ctx", ofUsage u)]
  | .name id u s => .node "Name" (some s) [("id", .text id), ("ctx", ofUsage u)]
  | .list es u s => .node "List" (some s) [("elts", .list (exprRecords es)), ("ctx", ofUsage u)]
  | .tuple es u s => .node "Tuple" (some s) [("elts", .list (exprRecords es)), ("ctx", ofUsage u)]
  | .slice l u st s =>
    .node "Slice" (some s)
      [("lower", exprRecord? l), ("upper", exprRecord? u), ("step", exprRecord? st)]

def exprRecord? : Option Expr → Record
  | none => .absent
  | some e => e.record

def exprRecords : List Expr → List Record
  | [] => []
  | e :: rest => e.record :: exprRecords rest

def keyRecords : List DictItem → List Record
  | [] => []
  | ⟨key, _⟩ :: rest => exprRecord? key :: keyRecords rest

def valueRecords : List DictItem → List Record
  | [] => []
  | ⟨_, value⟩ :: rest => value.record :: valueRecords rest

def operandRecords : List Comparison → List Record
  | [] => []
  | ⟨_, operand⟩ :: rest => operand.record :: operandRecords rest

def clauseRecords : List Clause → List Record
  | [] => []
  | ⟨target, iter, conditions, isAsync⟩ :: rest =>
    .node "comprehension" none
      [("target", target.record), ("iter", iter.record), ("ifs", .list (exprRecords conditions)),
       ("is_async", ofBit isAsync)] :: clauseRecords rest

def keywordRecords : List Keyword → List Record
  | [] => []
  | ⟨arg, value, s⟩ :: rest =>
    .node "keyword" (some s) [("arg", ofText? arg), ("value", value.record)] :: keywordRecords rest

def Parameter.record : Parameter → Record
  | ⟨id, hint, s⟩ => .node "arg" (some s) [("arg", .text id), ("annotation", exprRecord? hint)]

def parameterRecord? : Option Parameter → Record
  | none => .absent
  | some p => p.record

def parameterRecords : List Parameter → List Record
  | [] => []
  | p :: rest => p.record :: parameterRecords rest

def keywordOnlyRecords : List KeywordParameter → List Record
  | [] => []
  | ⟨p, _⟩ :: rest => p.record :: keywordOnlyRecords rest

def keywordDefaultRecords : List KeywordParameter → List Record
  | [] => []
  | ⟨_, value⟩ :: rest => exprRecord? value :: keywordDefaultRecords rest

def Parameters.record : Parameters → Record
  | ⟨positionalOnly, positional, variadic, keywordOnly, keywordVariadic, defaults⟩ =>
    .node "arguments" none
      [("posonlyargs", .list (parameterRecords positionalOnly)),
       ("args", .list (parameterRecords positional)), ("vararg", parameterRecord? variadic),
       ("kwonlyargs", .list (keywordOnlyRecords keywordOnly)),
       ("kw_defaults", .list (keywordDefaultRecords keywordOnly)),
       ("kwarg", parameterRecord? keywordVariadic), ("defaults", .list (exprRecords defaults))]

end

/-! ## Patterns -/

mutual

/-- The record of a pattern. -/
def Pattern.record : Pattern → Record
  | .value e s => .node "MatchValue" (some s) [("value", e.record)]
  | .singleton v s => .node "MatchSingleton" (some s) [("value", .literal v)]
  | .sequence ps s => .node "MatchSequence" (some s) [("patterns", .list (patternRecords ps))]
  | .mapping es rest s =>
    .node "MatchMapping" (some s)
      [("keys", .list (es.map fun e => e.key.record)), ("patterns", .list (entryRecords es)),
       ("rest", ofText? rest)]
  | .cls c ps ks s =>
    .node "MatchClass" (some s)
      [("cls", c.record), ("patterns", .list (patternRecords ps)),
       ("kwd_attrs", ofTexts (ks.map (·.attr))), ("kwd_patterns", .list (keywordPatternRecords ks))]
  | .star id s => .node "MatchStar" (some s) [("name", ofText? id)]
  | .capture p id s =>
    .node "MatchAs" (some s) [("pattern", patternRecord? p), ("name", ofText? id)]
  | .either ps s => .node "MatchOr" (some s) [("patterns", .list (patternRecords ps))]

def patternRecord? : Option Pattern → Record
  | none => .absent
  | some p => p.record

def patternRecords : List Pattern → List Record
  | [] => []
  | p :: rest => p.record :: patternRecords rest

def entryRecords : List PatternEntry → List Record
  | [] => []
  | ⟨_, p⟩ :: rest => p.record :: entryRecords rest

def keywordPatternRecords : List KeywordPattern → List Record
  | [] => []
  | ⟨_, p⟩ :: rest => p.record :: keywordPatternRecords rest

end

/-! ## Statements -/

/-- The name of a statement's class. -/
def Stmt.className : Stmt → String
  | .function isAsync .. => if isAsync then "AsyncFunctionDef" else "FunctionDef"
  | .classDef .. => "ClassDef"
  | .ret .. => "Return"
  | .delete .. => "Delete"
  | .assign .. => "Assign"
  | .augAssign .. => "AugAssign"
  | .annAssign .. => "AnnAssign"
  | .for isAsync .. => if isAsync then "AsyncFor" else "For"
  | .while .. => "While"
  | .if .. => "If"
  | .with isAsync .. => if isAsync then "AsyncWith" else "With"
  | .match .. => "Match"
  | .raise .. => "Raise"
  | .try isGroup .. => if isGroup then "TryStar" else "Try"
  | .assert .. => "Assert"
  | .importModules .. => "Import"
  | .importFrom .. => "ImportFrom"
  | .global .. => "Global"
  | .nonlocal .. => "Nonlocal"
  | .expr .. => "Expr"
  | .pass .. => "Pass"
  | .break .. => "Break"
  | .continue .. => "Continue"

/-- The record of a context manager. -/
def WithItem.record (w : WithItem) : Record :=
  .node "withitem" none [("context_expr", w.context.record), ("optional_vars", exprRecord? w.target)]

mutual

/-- The parts of a statement, by name. -/
def Stmt.fields : Stmt → List (String × Record)
  | .function _ id ps body decorators returns _ =>
    [("name", .text id), ("args", ps.record), ("body", .list (stmtRecords body)),
     ("decorator_list", .list (exprRecords decorators)), ("returns", exprRecord? returns)]
  | .classDef id bases kws body decorators _ =>
    [("name", .text id), ("bases", .list (exprRecords bases)),
     ("keywords", .list (keywordRecords kws)), ("body", .list (stmtRecords body)),
     ("decorator_list", .list (exprRecords decorators))]
  | .ret v _ => [("value", exprRecord? v)]
  | .delete ts _ => [("targets", .list (exprRecords ts))]
  | .assign ts v _ => [("targets", .list (exprRecords ts)), ("value", v.record)]
  | .augAssign t op v _ =>
    [("target", t.record), ("op", .text (binaryOpNames.nameOf op)), ("value", v.record)]
  | .annAssign t a v simple _ =>
    [("target", t.record), ("annotation", a.record), ("value", exprRecord? v),
     ("simple", ofBit simple)]
  | .for _ t i body orElse _ =>
    [("target", t.record), ("iter", i.record), ("body", .list (stmtRecords body)),
     ("orelse", .list (stmtRecords orElse))]
  | .while t body orElse _ =>
    [("test", t.record), ("body", .list (stmtRecords body)), ("orelse", .list (stmtRecords orElse))]
  | .if t body orElse _ =>
    [("test", t.record), ("body", .list (stmtRecords body)), ("orelse", .list (stmtRecords orElse))]
  | .with _ items body _ =>
    [("items", .list (items.map WithItem.record)), ("body", .list (stmtRecords body))]
  | .match e cs _ => [("subject", e.record), ("cases", .list (caseRecords cs))]
  | .raise e c _ => [("exc", exprRecord? e), ("cause", exprRecord? c)]
  | .try _ body hs orElse final _ =>
    [("body", .list (stmtRecords body)), ("handlers", .list (handlerRecords hs)),
     ("orelse", .list (stmtRecords orElse)), ("finalbody", .list (stmtRecords final))]
  | .assert t m _ => [("test", t.record), ("msg", exprRecord? m)]
  | .importModules names _ => [("names", .list (names.map ofAlias))]
  | .importFrom m names level _ =>
    [("module", ofText? m), ("names", .list (names.map ofAlias)), ("level", .number level)]
  | .global names _ => [("names", ofTexts names)]
  | .nonlocal names _ => [("names", ofTexts names)]
  | .expr e _ => [("value", e.record)]
  | .pass _ | .break _ | .continue _ => []

def stmtRecords : List Stmt → List Record
  | [] => []
  | s :: rest => .node s.className (some s.span) s.fields :: stmtRecords rest

def handlerRecords : List Handler → List Record
  | [] => []
  | ⟨type, id, body, s⟩ :: rest =>
    .node "ExceptHandler" (some s)
      [("type", exprRecord? type), ("name", ofText? id), ("body", .list (stmtRecords body))] ::
      handlerRecords rest

def caseRecords : List MatchCase → List Record
  | [] => []
  | ⟨p, guard, body⟩ :: rest =>
    .node "match_case" none
      [("pattern", p.record), ("guard", exprRecord? guard), ("body", .list (stmtRecords body))] ::
      caseRecords rest

end

/-- The record of a statement. -/
def Stmt.record (s : Stmt) : Record := .node s.className (some s.span) s.fields

/-- The record of a module. -/
def Module.record (m : Module) : Record := .node "Module" none [("body", .list (stmtRecords m.body))]

end Standin.Source
