/-
The words and signs a module is written with.
-/
import Standin.Source.Tree

set_option autoImplicit false

namespace Standin.Source

/-- The words that no name may be. -/
inductive Reserved where
  | false | none | true | and | as | assert | async | await | break | classWord | continue | define
  | del | elif | else | except | finally | for | from | global | if | importing | in | is
  | lambda | nonlocal | not | or | pass | raise | return | try | while | with | yield
  deriving DecidableEq, Repr, Inhabited

/-- The reserved words as they are written. -/
def Reserved.table : List (String × Reserved) :=
  [("False", .false), ("None", .none), ("True", .true), ("and", .and), ("as", .as),
   ("assert", .assert), ("async", .async), ("await", .await), ("break", .break),
   ("class", .classWord), ("continue", .continue), ("def", .define), ("del", .del), ("elif", .elif),
   ("else", .else), ("except", .except), ("finally", .finally), ("for", .for), ("from", .from),
   ("global", .global), ("if", .if), ("import", .importing), ("in", .in), ("is", .is),
   ("lambda", .lambda), ("nonlocal", .nonlocal), ("not", .not), ("or", .or), ("pass", .pass),
   ("raise", .raise), ("return", .return), ("try", .try), ("while", .while), ("with", .with),
   ("yield", .yield)]

/-- The reserved word that a text spells. -/
def Reserved.ofText? (s : String) : Option Reserved :=
  (table.find? fun entry => entry.1 == s).map (·.2)

/-- Brackets, operators and separators. -/
inductive Sign where
  | openParen | closeParen | openBracket | closeBracket | openBrace | closeBrace
  | colon | comma | semicolon | dot | ellipsis | arrow | at | equal | walrus
  | plus | minus | star | slash | bar | ampersand | less | greater | percent | tilde | caret
  | equalEqual | notEqual | lessEqual | greaterEqual | shiftLeft | shiftRight | doubleStar
  | doubleSlash
  | plusEqual | minusEqual | starEqual | slashEqual | percentEqual | ampersandEqual | barEqual
  | caretEqual | shiftLeftEqual | shiftRightEqual | doubleStarEqual | doubleSlashEqual | atEqual
  deriving DecidableEq, Repr, Inhabited

/-- The signs as they are written, longer ones before their own beginnings. -/
def Sign.table : List (List Char × Sign) :=
  [(['*', '*', '='], .doubleStarEqual), (['/', '/', '='], .doubleSlashEqual),
   (['>', '>', '='], .shiftRightEqual), (['<', '<', '='], .shiftLeftEqual),
   (['.', '.', '.'], .ellipsis),
   (['=', '='], .equalEqual), (['!', '='], .notEqual), (['<', '='], .lessEqual),
   (['>', '='], .greaterEqual), (['<', '<'], .shiftLeft), (['>', '>'], .shiftRight),
   (['*', '*'], .doubleStar), (['/', '/'], .doubleSlash), (['+', '='], .plusEqual),
   (['-', '='], .minusEqual), (['*', '='], .starEqual), (['/', '='], .slashEqual),
   (['%', '='], .percentEqual), (['&', '='], .ampersandEqual), (['|', '='], .barEqual),
   (['^', '='], .caretEqual), (['@', '='], .atEqual), (['-', '>'], .arrow),
   ([':', '='], .walrus),
   (['('], .openParen), ([')'], .closeParen), (['['], .openBracket), ([']'], .closeBracket),
   (['\x7b'], .openBrace), (['\x7d'], .closeBrace), ([':'], .colon), ([','], .comma),
   ([';'], .semicolon), (['.'], .dot), (['@'], .at), (['='], .equal), (['+'], .plus),
   (['-'], .minus), (['*'], .star), (['/'], .slash), (['|'], .bar), (['&'], .ampersand),
   (['<'], .less), (['>'], .greater), (['%'], .percent), (['~'], .tilde), (['^'], .caret)]

/-- The longest sign at the head of a text, with its characters.  `<>` is no sign, though both
of its characters are. -/
def Sign.atHead? (cs : List Char) : Option (List Char × Sign) :=
  if ['<', '>'].isPrefixOf cs then none
  else table.find? fun entry => entry.1.isPrefixOf cs

/-- A string literal.  Replacement fields are not taken apart yet: of a literal that may have
some, the token keeps the characters between the quotes. -/
inductive StringPiece where
  | text (codes : List Nat)
  | bytes (bs : List UInt8)
  | fields (raw : Bool) (opening : Nat) (body : List Char)
  deriving DecidableEq, Repr, Inhabited

/-- What a token is.  A name carries its normal form and whether that is how it was written; a
string literal, whether it was marked with a `u`. -/
inductive Lexeme where
  | name (id : String) (plain : Bool)
  | reserved (word : Reserved)
  | sign (sign : Sign)
  | number (value : Literal)
  | string (piece : StringPiece) (marked : Bool)
  | newline
  | indent
  | dedent
  | finish
  deriving DecidableEq, Repr, Inhabited

/-- A lexeme and where it stands. -/
structure Token where
  lexeme : Lexeme
  span : Span
  deriving DecidableEq, Repr, Inhabited

/-- Whether the token is a mark of layout, which covers no text of its own. -/
def Token.isLayout (t : Token) : Bool :=
  match t.lexeme with
  | .newline | .indent | .dedent | .finish => true
  | _ => false

/-- The place after a character. -/
def Place.after (p : Place) (c : Char) : Place :=
  if c = '\n' then ⟨p.line + 1, 0⟩ else ⟨p.line, p.col + c.utf8Size⟩

/-- The place after a stretch of text. -/
def Place.afterAll (p : Place) (cs : List Char) : Place :=
  cs.foldl Place.after p

end Standin.Source
