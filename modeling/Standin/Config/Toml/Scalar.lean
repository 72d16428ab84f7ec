/-
The simple values of a TOML document: texts, numbers, days and times.

Every reader takes the characters ahead and gives what it read with what is left.
A reader of a form that may not be there gives nothing then; once a form has begun,
anything unexpected is an error.
-/
import Standin.Value
import Standin.Number.Reading
import Standin.Text.CharTable

set_option autoImplicit false

namespace Standin.Toml

open Number (Binary64)
open Text (hexDigit? hexValue)

/-- Why a text is no document: it is none, or it holds a number of more digits than are read. -/
inductive Error where
  | malformed
  | tooManyDigits (count : Nat)
  deriving DecidableEq, Repr

/-- The result of reading. -/
abbrev Reading := Except Error

/-- The greatest number of digits that is read. -/
def maxDigits : Nat := 4300

/-- What is said of a number with too many digits. -/
def tooManyDigitsMessage (count : Nat) : String :=
  "Exceeds the limit (" ++ toString maxDigits ++ " digits) for integer string conversion: value has " ++
    toString count ++ " digits; use sys.set_int_max_str_digits() to increase the limit"

/-! ## Characters -/

/-- A blank within a line. -/
def isInlineBlank (c : Char) : Bool := c == ' ' || c == '\t'

/-- A blank or the end of a line. -/
def isBlank (c : Char) : Bool := isInlineBlank c || c == '\n'

/-- A control character that may stand nowhere on a line. -/
def isIllegal (c : Char) : Bool := (c.toNat < 32 && c != '\t') || c.toNat == 127

/-- A character of a key without quotes. -/
def isBareKey (c : Char) : Bool :=
  (decide (c.toNat < 128) && c.isAlphanum) || c == '-' || c == '_'

/-- Whether the characters ahead begin with a text. -/
def startsWith (word : String) (cs : List Char) : Bool := word.toList.isPrefixOf cs

/-- What is left without the blanks ahead. -/
def skipInline (cs : List Char) : List Char := cs.dropWhile isInlineBlank

/-- What is left without the comment that may stand ahead. -/
def skipComment (cs : List Char) : Reading (List Char) :=
  match cs with
  | '#' :: rest =>
    if (rest.takeWhile (· != '\n')).any isIllegal then .error .malformed
    else .ok (rest.dropWhile (· != '\n'))
  | cs => .ok cs

/-! ## Texts -/

/-- The text up to the next quote, without escapes. -/
def literalText (cs : List Char) : Reading (List Char × List Char) :=
  let text := cs.takeWhile (· != '\'')
  match cs.dropWhile (· != '\'') with
  | _ :: rest => if text.any isIllegal then .error .malformed else .ok (text, rest)
  | [] => .error .malformed

/-- The text up to the next three quotes, without escapes. -/
def longLiteralText : List Char → Reading (List Char × List Char)
  | '\'' :: '\'' :: '\'' :: rest => .ok ([], rest)
  | [] => .error .malformed
  | c :: rest => do
    if isIllegal c && c != '\n' then throw .malformed
    let (text, rest) ← longLiteralText rest
    return (c :: text, rest)

/-- The character of so many hexadecimal digits ahead. -/
def hexChar (count : Nat) (cs : List Char) : Reading (List Char × List Char) :=
  let ds := cs.take count
  let n := hexValue ds
  if ds.length = count ∧ ds.all (hexDigit? · |>.isSome) ∧ n.isValidChar then
    .ok ([Char.ofNat n], cs.drop count)
  else .error .malformed

/-- The character that an escape of one letter stands for. -/
def escapeChar? : Char → Option Char
  | 'b' => some (Char.ofNat 8)
  | 't' => some '\t'
  | 'n' => some '\n'
  | 'f' => some (Char.ofNat 12)
  | 'r' => some '\r'
  | '"' => some '"'
  | '\\' => some '\\'
  | _ => none

/-- What an escape stands for; the backslash has been taken.  In a long text a backslash at the end
of a line takes all blanks with it up to the next text. -/
def escape (long : Bool) (cs : List Char) : Reading (List Char × List Char) :=
  match cs with
  | [] => .error .malformed
  | 'u' :: rest => hexChar 4 rest
  | 'U' :: rest => hexChar 8 rest
  | c :: rest =>
    if long && isBlank c then
      match skipInline cs with
      | [] => .ok ([], [])
      | '\n' :: rest => .ok ([], rest.dropWhile isBlank)
      | _ => .error .malformed
    else
      match escapeChar? c with
      | some d => .ok ([d], rest)
      | none => .error .malformed

/-- The text up to its closing quotes, with escapes.  Each step takes a character, so that `fuel`
beyond their number is enough. -/
def quotedText (long : Bool) : Nat → List Char → Reading (List Char × List Char)
  | 0, _ => .error .malformed
  | _, [] => .error .malformed
  | fuel + 1, c :: rest => do
    if c = '"' && !long then return ([], rest)
    if c = '"' && startsWith "\"\"" rest then return ([], rest.drop 2)
    if c = '\\' then
      let (part, rest) ← escape long rest
      let (text, rest) ← quotedText long fuel rest
      return (part ++ text, rest)
    if isIllegal c && !(long && c = '\n') then throw .malformed
    let (text, rest) ← quotedText long fuel rest
    return (c :: text, rest)

/-- Up to two quotes that stand right after the closing ones belong to a long text. -/
def withLateQuotes (quote : Char) (r : List Char × List Char) : List Char × List Char :=
  let late := (r.2.take 2).takeWhile (· == quote)
  (r.1 ++ late, r.2.drop late.length)

/-- A long text begins on the next line if there is nothing else on this one. -/
def skipFirstBreak : List Char → List Char
  | '\n' :: rest => rest
  | cs => cs

/-- The text whose quote has not been taken yet. -/
def text? (cs : List Char) : Option (Reading (String × List Char)) :=
  let asText (r : List Char × List Char) : String × List Char := (String.ofList r.1, r.2)
  match cs with
  | '"' :: '"' :: '"' :: rest =>
    some ((quotedText true (rest.length + 1) (skipFirstBreak rest)).map
      fun r => asText (withLateQuotes '"' r))
  | '"' :: rest => some ((quotedText false (rest.length + 1) rest).map asText)
  | '\'' :: '\'' :: '\'' :: rest =>
    some ((longLiteralText (skipFirstBreak rest)).map fun r => asText (withLateQuotes '\'' r))
  | '\'' :: rest => some ((literalText rest).map asText)
  | _ => none

/-! ## Days and times -/

/-- The number of exactly so many digits ahead. -/
def digits? (count : Nat) (cs : List Char) : Option (Nat × List Char) :=
  let ds := cs.take count
  if ds.length = count ∧ ds.all Char.isDigit then
    some (Binary64.digitsValue ds, cs.drop count)
  else none

/-- What is left after a given character. -/
def after? (c : Char) : List Char → Option (List Char)
  | d :: rest => if d = c then some rest else none
  | [] => none

/-- Two digits for a number within bounds. -/
def twoDigits? (low high : Nat) (cs : List Char) : Option (Nat × List Char) := do
  let (n, rest) ← digits? 2 cs
  if low ≤ n ∧ n ≤ high then some (n, rest) else none

/-- Millionths of a second after a point; further digits are dropped. -/
def fraction (cs : List Char) : Nat × List Char :=
  match cs with
  | '.' :: rest =>
    let ds := rest.takeWhile Char.isDigit
    if ds.isEmpty then (0, cs)
    else
      let six := ds.take 6
      (Binary64.digitsValue (six ++ List.replicate (6 - six.length) '0'),
        rest.dropWhile Char.isDigit)
  | cs => (0, cs)

/-- A time of day. -/
def time? (cs : List Char) : Option (Time × List Char) := do
  let (hour, cs) ← twoDigits? 0 23 cs
  let cs ← after? ':' cs
  let (minute, cs) ← twoDigits? 0 59 cs
  let cs ← after? ':' cs
  let (second, cs) ← twoDigits? 0 59 cs
  let (micro, cs) := fraction cs
  return (⟨hour, minute, second, micro⟩, cs)

/-- A day, as far as the form goes. -/
def date? (cs : List Char) : Option (Date × List Char) := do
  let (year, cs) ← digits? 4 cs
  let cs ← after? '-' cs
  let (month, cs) ← twoDigits? 1 12 cs
  let cs ← after? '-' cs
  let (day, cs) ← twoDigits? 1 31 cs
  return (⟨year, month, day⟩, cs)

/-- The minutes that a clock is ahead of the universal one. -/
def offset? (cs : List Char) : Option (Int × List Char) := do
  match cs with
  | c :: rest =>
    if c = 'Z' ∨ c = 'z' then return (0, rest)
    let sign : Int ← if c = '+' then some 1 else if c = '-' then some (-1) else none
    let (hours, rest) ← twoDigits? 0 23 rest
    let rest ← after? ':' rest
    let (minutes, rest) ← twoDigits? 0 59 rest
    return (sign * (60 * hours + minutes), rest)
  | [] => none

/-- The number of days of a month. -/
def daysIn (year month : Nat) : Nat :=
  if month = 2 then
    if year % 4 = 0 ∧ (year % 100 ≠ 0 ∨ year % 400 = 0) then 29 else 28
  else if month = 4 ∨ month = 6 ∨ month = 9 ∨ month = 11 then 30
  else 31

/-- Whether the calendar has the day. -/
def Date.exists (d : Date) : Bool := 1 ≤ d.year && d.day ≤ daysIn d.year d.month

/-- A day, or a day with a time and perhaps the offset of its clock. -/
def moment? (cs : List Char) : Option (Reading (Value × List Char)) := do
  let (date, rest) ← date? cs
  let timed : Option (Time × List Char) := do
    match rest with
    | c :: rest => if c = 'T' ∨ c = 't' ∨ c = ' ' then time? rest else none
    | [] => none
  -- What has the form of a day is nothing else, so a day that no calendar has is an error.
  if !Date.exists date then return .error .malformed
  match timed with
  | none => return .ok (.date date, rest)
  | some (time, rest) =>
    match offset? rest with
    | some (offset, rest) => return .ok (.dateTime date time (some offset), rest)
    | none => return .ok (.dateTime date time none, rest)

/-! ## Numbers -/

/-- The digits ahead, where each but the first may follow an underscore; and what is left. -/
def spacedDigits (isDigit : Char → Bool) : List Char → List Char × List Char
  | '_' :: d :: rest =>
    if isDigit d then
      let (ds, rest) := spacedDigits isDigit rest
      (d :: ds, rest)
    else ([], '_' :: d :: rest)
  | d :: rest =>
    if isDigit d then
      let (ds, rest) := spacedDigits isDigit rest
      (d :: ds, rest)
    else ([], d :: rest)
  | [] => ([], [])

/-- At least one digit. -/
def someDigits? (isDigit : Char → Bool) (cs : List Char) : Option (List Char × List Char) :=
  match cs with
  | d :: _ => if isDigit d then some (spacedDigits isDigit cs) else none
  | [] => none

/-- The number that digits spell in a base. -/
def valueIn (base : Nat) (ds : List Char) : Nat :=
  ds.foldl (fun n d => base * n + (hexDigit? d).getD 0) 0

/-- A number in a base that is a power of two. -/
def based? (cs : List Char) : Option (Value × List Char) := do
  match cs with
  | '0' :: 'x' :: rest =>
    let (ds, rest) ← someDigits? (hexDigit? · |>.isSome) rest
    return (.int (valueIn 16 ds), rest)
  | '0' :: 'b' :: rest =>
    let (ds, rest) ← someDigits? (fun c => c == '0' || c == '1') rest
    return (.int (valueIn 2 ds), rest)
  | '0' :: 'o' :: rest =>
    let (ds, rest) ← someDigits? (fun c => '0' ≤ c && c ≤ '7') rest
    return (.int (valueIn 8 ds), rest)
  | _ => none

/-- The digits of a whole number: a zero alone, or digits that begin with no zero. -/
def wholeDigits? (cs : List Char) : Option (List Char × List Char) :=
  match cs with
  | '0' :: rest => some (['0'], rest)
  | cs => someDigits? Char.isDigit cs

/-- The digits after a point. -/
def fractionDigits (cs : List Char) : List Char × List Char :=
  match cs with
  | '.' :: rest => (someDigits? Char.isDigit rest).getD ([], cs)
  | cs => ([], cs)

/-- The sign and digits of an exponent. -/
def exponentDigits (cs : List Char) : List Char × List Char :=
  match cs with
  | c :: rest =>
    if c = 'e' ∨ c = 'E' then
      let (sign, rest) := match rest with
        | '-' :: rest => (['-'], rest)
        | '+' :: rest => ([], rest)
        | rest => ([], rest)
      match someDigits? Char.isDigit rest with
      | some (ds, rest) => (sign ++ ds, rest)
      | none => ([], cs)
    else ([], cs)
  | [] => ([], [])

/-- A decimal number: whole, or with a fraction or an exponent. -/
def decimal? (cs : List Char) : Option (Reading (Value × List Char)) := do
  let (negative, unsigned) := Binary64.splitSign cs
  let (whole, rest) ← wholeDigits? unsigned
  let (fraction, rest) := fractionDigits rest
  let (exponent, rest) := exponentDigits rest
  if fraction.isEmpty && exponent.isEmpty then
    if maxDigits < whole.length then return .error (.tooManyDigits whole.length)
    let n : Int := Binary64.digitsValue whole
    return .ok (.int (if negative then -n else n), rest)
  let text := whole ++ '.' :: fraction ++ (if exponent.isEmpty then [] else 'e' :: exponent)
  let x := (Binary64.unsigned? negative text).getD .nan
  return .ok (.literal (.real x), rest)

/-- The numbers that have names, with an optional sign. -/
def special? (cs : List Char) : Option (Value × List Char) :=
  let (negative, rest) := Binary64.splitSign cs
  if startsWith "inf" rest then some (.literal (.real (.infinite negative)), rest.drop 3)
  else if startsWith "nan" rest then some (.literal (.real .nan), rest.drop 3)
  else none

/-- A simple value. -/
def scalar (cs : List Char) : Reading (Value × List Char) :=
  match text? cs with
  | some r => r.map fun (s, rest) => (.text s, rest)
  | none =>
    if startsWith "true" cs then .ok (.bool true, cs.drop 4)
    else if startsWith "false" cs then .ok (.bool false, cs.drop 5)
    else
      -- Days and times begin with digits as numbers do, and are tried before them.
      match moment? cs with
      | some r => r
      | none =>
        match time? cs with
        | some (t, rest) => .ok (.time t, rest)
        | none =>
          match based? cs with
          | some r => .ok r
          | none =>
            match decimal? cs with
            | some r => r
            | none =>
              match special? cs with
              | some r => .ok r
              | none => .error .malformed

end Standin.Toml
