/-
The grammar of patterns.
-/
import Standin.Source.Parser.Expr

set_option autoImplicit false

namespace Standin.Source

open Standin.Source.Parser

/-- A name that is bound by a pattern: neither the wildcard nor the beginning of a dotted name, a
class or a keyword. -/
def captureTarget : Parser String := do
  if ← nextIs (.name "_" true) then reject
  let id ← name
  match ← peek with
  | .sign .dot | .sign .openParen | .sign .equal => reject
  | _ => return id

/-- The wildcard. -/
def wildcard : Parser Unit := softWord "_"

/-- A number. -/
def number : Parser (Literal × Span) := do
  let start ← here
  match (← token).lexeme with
  | .number v => return (v, ← spanFrom start)
  | _ => reject

/-- A number that may have a minus sign. -/
def signedNumber : Parser Expr := do
  let start ← here
  if ← signIfNext .minus then
    let (v, span) ← number
    return .unary .minus (.constant v false span) (← spanFrom start)
  else
    let (v, span) ← number
    return .constant v false span

/-- Whether the literal is imaginary. -/
def Literal.isImaginary : Literal → Bool
  | .complex _ _ => true
  | _ => false

/-- Whether a signed number is imaginary. -/
def isImaginaryNumber : Expr → Bool
  | .constant v _ _ => v.isImaginary
  | .unary _ (.constant v _ _) _ => v.isImaginary
  | _ => false

/-- A number that may have a sign, or a real number and an imaginary one. -/
def numberPattern : Parser Expr := do
  let start ← here
  let real ← signedNumber
  match sumOp? (← peek) with
  | none => return real
  | some op =>
    if isImaginaryNumber real then reject
    let _ ← token
    let (v, span) ← number
    if !v.isImaginary then reject
    return .binary real op (.constant v false span) (← spanFrom start)

/-- The singleton a word names. -/
def singleton? : Lexeme → Option Literal
  | .reserved .none => some .none
  | .reserved .true => some (.bool true)
  | .reserved .false => some (.bool false)
  | _ => none

/-- A name, or names joined by dots. -/
def dottedName : Nat → Parser Expr := fun rounds => do
  let start ← here
  let id ← name
  let first := Expr.name id .load (← spanFrom start)
  extendLeft (fun e => do
    sign .dot
    let attr ← name
    return .attribute e attr .load (← spanFrom start)) rounds first

/-- Whether the expression is an attribute. -/
def Expr.isAttribute : Expr → Bool
  | .attribute _ _ _ _ => true
  | _ => false

section Productions

variable (r : Rules) (pattern : Parser Pattern)

/-- A starred name or wildcard in a sequence. -/
def starPattern : Parser Pattern := do
  let start ← here
  sign .star
  match ← attempt captureTarget with
  | some id => return .star (some id) (← spanFrom start)
  | none =>
    wildcard
    return .star none (← spanFrom start)

/-- A starred name, or a pattern. -/
def maybeStarPattern : Parser Pattern := do
  if ← nextIsSign .star then starPattern else pattern

/-- What follows an opening bracket up to the closing one.  Parentheses around one pattern without
a comma only group it. -/
def sequencePattern (start : Place) (close : Sign) : Parser Pattern := do
  if ← signIfNext close then return .sequence [] (← spanFrom start)
  let first ← maybeStarPattern pattern
  let rest ← many (do sign .comma; maybeStarPattern pattern) r.rounds
  let comma ← signIfNext .comma
  sign close
  let isGroup := close = .closeParen && rest.isEmpty && !comma
  match isGroup, first with
  | true, .star _ _ => reject
  | true, p => return p
  | false, _ => return .sequence (first :: rest) (← spanFrom start)

/-- The key of a mapping pattern: a literal or an attribute. -/
def patternKey : Parser Expr := do
  let start ← here
  match ← peek with
  | .string _ _ => strings r
  | .number _ | .sign .minus => numberPattern
  | .name _ _ =>
    let e ← dottedName r.rounds
    if e.isAttribute then return e else reject
  | l =>
    match singleton? l with
    | some v =>
      let _ ← token
      return .constant v false (← spanFrom start)
    | none => reject

/-- An entry of a mapping pattern. -/
def patternEntry : Parser PatternEntry := do
  let key ← patternKey r
  sign .colon
  let p ← pattern
  return ⟨key, p⟩

/-- A mapping pattern; the name for the rest of the mapping is last. -/
def mappingPattern : Parser Pattern := do
  let start ← here
  sign .openBrace
  let rest : Parser String := do sign .doubleStar; captureTarget
  if ← signIfNext .closeBrace then return .mapping [] none (← spanFrom start)
  if ← nextIsSign .doubleStar then
    let id ← rest
    let _ ← signIfNext .comma
    sign .closeBrace
    return .mapping [] (some id) (← spanFrom start)
  let entries ← separated .comma (patternEntry r pattern) r.rounds
  let id ← attempt (do sign .comma; rest)
  let _ ← signIfNext .comma
  sign .closeBrace
  return .mapping entries id (← spanFrom start)

/-- A keyword of a class pattern. -/
def keywordPattern : Parser KeywordPattern := do
  let attr ← name
  sign .equal
  let p ← pattern
  return ⟨attr, p⟩

/-- The end of a class pattern, before which a comma may stand. -/
def classEnd : Parser Unit := do
  let _ ← signIfNext .comma
  sign .closeParen

/-- Keywords only, up to the end of a class pattern. -/
def keywordPatterns : Parser (List KeywordPattern) := do
  let ks ← separated .comma (keywordPattern pattern) r.rounds
  classEnd
  return ks

/-- Patterns that are no keywords, and keywords after them, up to the end of a class pattern. -/
def positionalPatterns : Parser (List Pattern × List KeywordPattern) := do
  let ps ← separated .comma pattern r.rounds
  match ← attempt (do sign .comma; keywordPatterns r pattern) with
  | some ks => return (ps, ks)
  | none =>
    classEnd
    return (ps, [])

/-- What a class is asked for.  A keyword may be called like the wildcard, which is read as a
pattern first. -/
def classPattern (start : Place) (cls : Expr) : Parser Pattern := do
  sign .openParen
  if ← signIfNext .closeParen then return .cls cls [] [] (← spanFrom start)
  match ← attempt (positionalPatterns r pattern) with
  | some (ps, ks) => return .cls cls ps ks (← spanFrom start)
  | none => return .cls cls [] (← keywordPatterns r pattern) (← spanFrom start)

/-- A pattern that needs no brackets around it. -/
def closedPattern : Parser Pattern := do
  let start ← here
  match ← peek with
  | .string _ _ =>
    let e ← strings r
    return .value e (← spanFrom start)
  | .number _ | .sign .minus =>
    let e ← numberPattern
    return .value e (← spanFrom start)
  | .sign .openParen =>
    sign .openParen
    sequencePattern r pattern start .closeParen
  | .sign .openBracket =>
    sign .openBracket
    sequencePattern r pattern start .closeBracket
  | .sign .openBrace => mappingPattern r pattern
  -- The wildcard ends where it stands: it begins no dotted name and no class.
  | .name "_" true =>
    wildcard
    return .capture none none (← spanFrom start)
  | .name id _ =>
    let e ← dottedName r.rounds
    match ← peek with
    | .sign .openParen => classPattern r pattern start e
    | .sign .equal => reject
    | _ =>
      let span ← spanFrom start
      if e.isAttribute then return .value e span
      else return .capture none (some id) span
  | l =>
    match singleton? l with
    | some v =>
      let _ ← token
      return .singleton v (← spanFrom start)
    | none => reject

/-- Alternatives, which may be bound to a name as a whole. -/
def asPattern : Parser Pattern := do
  let start ← here
  let first ← closedPattern r pattern
  let rest ← many (do sign .bar; closedPattern r pattern) r.rounds
  -- The alternatives end here, whatever name is given to them.
  let span ← spanFrom start
  let p := if rest.isEmpty then first else .either (first :: rest) span
  match ← attempt (do word .as; captureTarget) with
  | some id => return .capture (some p) (some id) (← spanFrom start)
  | none => return p

end Productions

/-- A pattern nested no deeper than so many steps. -/
def pattern (r : Rules) : Nat → Parser Pattern
  | 0 => reject
  | depth + 1 => asPattern r (pattern r depth)

/-- The pattern of a `case`, which may be a sequence without brackets. -/
def openPattern (r : Rules) : Parser Pattern := do
  let p := pattern r r.rounds
  let start ← here
  let first ← maybeStarPattern p
  if ← nextIsSign .comma then
    let rest ← many (do sign .comma; maybeStarPattern p) r.rounds
    let _ ← signIfNext .comma
    return .sequence (first :: rest) (← spanFrom start)
  else match first with
  | .star _ _ => reject
  | _ => return first

end Standin.Source
