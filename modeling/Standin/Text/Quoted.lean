/-
Texts between quotes.

A quoted text shows every printable character as itself; the others, the
backslash and the closing quote are escaped.  Texts are given by their code
points, since one that holds surrogates can be quoted as well.
-/
import Standin.Text.Printable

set_option autoImplicit false

namespace Standin.Text

/-- The code points of a text. -/
def codesOf (s : String) : List Nat := s.toList.map Char.toNat

/-- The last `width` hexadecimal digits of a number. -/
def hexDigits (width n : Nat) : String :=
  let ds := Nat.toDigits 16 n
  String.ofList (List.replicate (width - ds.length) '0' ++ ds)

/-- Whether the code point is a printable character. -/
def isPrintableCode (n : Nat) : Bool :=
  decide n.isValidChar && isPrintable (Char.ofNat n)

/-- A code point as an escape. -/
def escapeCode (n : Nat) : String :=
  if n = 9 then "\\t"
  else if n = 10 then "\\n"
  else if n = 13 then "\\r"
  else if n = 92 then "\\\\"
  else if n < 0x100 then "\\x" ++ hexDigits 2 n
  else if n < 0x10000 then "\\u" ++ hexDigits 4 n
  else "\\U" ++ hexDigits 8 n

/-- A code point as it stands in a quoted text. -/
def quoteCode (quote : Char) (n : Nat) : String :=
  if n = quote.toNat then String.ofList ['\\', quote]
  else if n = 92 ∨ !isPrintableCode n then escapeCode n
  else String.ofList [Char.ofNat n]

/-- The quote for a text: the single one, unless that occurs in the text and the double one does
not. -/
def quoteFor (codes : List Nat) : Char :=
  if codes.contains 39 && !codes.contains 34 then '"' else '\''

/-- The text between its quotes. -/
def quoteCodes (codes : List Nat) : String :=
  let q := quoteFor codes
  String.ofList [q] ++ String.join (codes.map (quoteCode q)) ++ String.ofList [q]

/-- The text between its quotes. -/
def quoted (s : String) : String := quoteCodes (codesOf s)

/-- A byte as it stands in a quoted byte string: those above `7e` are escaped too. -/
def quoteByte (quote : Char) (n : Nat) : String :=
  if n < 127 then quoteCode quote n else "\\x" ++ hexDigits 2 n

/-- The byte string between its quotes, with its mark. -/
def quoteBytes (bs : List UInt8) : String :=
  let codes := bs.map UInt8.toNat
  let q := quoteFor codes
  "b" ++ String.ofList [q] ++ String.join (codes.map (quoteByte q)) ++ String.ofList [q]

/-! ## Choosing among quotes

Where a text should be shown with few escapes, the quotes are chosen to suit it:
long quotes let it hold line feeds, and quotes that do not occur in it need no
escape. -/

/-- The four ways to quote, short ones first. -/
def allQuotes : List String := ["'", "\"", "\"\"\"", "'''"]

/-- The quotes between which line feeds may stand. -/
def longQuotes : List String := ["\"\"\"", "'''"]

/-- Whether `part` occurs in `cs`. -/
def occursIn (part : List Char) : List Char → Bool
  | [] => part.isEmpty
  | c :: rest => part.isPrefixOf (c :: rest) || occursIn part rest

/-- A code point where quotes need no escape: line feeds and tabs stay unless `spaces`. -/
def plainCode (spaces : Bool) (n : Nat) : String :=
  if !spaces && (n = 10 || n = 9) then String.ofList [Char.ofNat n]
  else if n = 92 || !isPrintableCode n then escapeCode n
  else String.ofList [Char.ofNat n]

/-- The text as it stands between quotes, and the quotes among `quotes` that suit it, the best one
first.  If none does, the text is quoted in the ordinary way. -/
def fitQuotes (quotes : List String) (spaces : Bool) (codes : List Nat) : String × List String :=
  let body := (String.join (codes.map (plainCode spaces))).toList
  let suits (q : String) : Bool :=
    (!body.contains '\n' || longQuotes.contains q) && !occursIn q.toList body
  match quotes.filter suits with
  | [] =>
    let q := quoteFor codes
    let whole := quoteCodes codes
    let inner := (whole.toList.drop 1).dropLast
    let quote := match quotes.find? (·.toList.contains q) with
      | some long => long
      | none => String.ofList [q]
    (String.ofList inner, [quote])
  | possible =>
    match body.getLast? with
    | none => ("", possible)
    | some last =>
      let clashes (q : String) : Bool := q.toList.head? = some last
      let sorted := possible.filter (!clashes ·) ++ possible.filter clashes
      let body :=
        if sorted.head?.any clashes then body.dropLast ++ ['\\', last] else body
      (String.ofList body, sorted)

/-- The text between the quotes that suit it best. -/
def fitted (quotes : List String) (codes : List Nat) : String :=
  let (body, possible) := fitQuotes quotes false codes
  let q := possible.headD ""
  q ++ body ++ q

end Standin.Text
