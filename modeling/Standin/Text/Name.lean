/-
Characters by name.

Most names stand in a table.  The names of Korean syllables are put together from
the names of their parts, and those of some large sets of signs are one name with
the code point behind it, so these are found by rule.  Letters count the same in
both cases, except where a rule finds the name.
-/
import Standin.Text.CharTable
import Standin.Text.Name.Table

set_option autoImplicit false

namespace Standin.Text.Name

/-- The upper-case form of a Latin letter; other characters stay. -/
def upper (c : Char) : Char := c.toUpper

/-! ## The table -/

/-- An entry of the table that has been read: a code point and the words of its name. -/
structure Entry where
  code : Nat
  words : List (List Char)

/-- The entry that a text stands for, after the entry `last`. -/
def Entry.after (last : Entry) (text : List Char) : Entry :=
  let text := text.dropWhile fun c => c == '\n' || c == ' '
  let (code, rest) := match text.dropWhile (· != '=') with
    | [] => (last.code + 1, text)
    | _ :: rest => (hexValue (text.takeWhile (· != '=')), rest)
  let shared := hexValue (rest.take 1)
  ⟨code, last.words.take shared ++ splitChars ' ' (rest.drop 1)⟩

/-- The code point of a name, given by its words, among entries. -/
def findIn (name : List (List Char)) : Entry → List (List Char) → Option Nat
  | _, [] => none
  | last, text :: rest =>
    let entry := last.after text
    if entry.words == name then some entry.code else findIn name entry rest

/-- The code point of a name in the text of a table. -/
def inTable (name : List (List Char)) (table : String) : Option Nat :=
  findIn name ⟨0, []⟩ (splitChars ';' table.toList)

/-! ## Names with the code point behind them -/

/-- A set of signs that share a name, as ranges of code points. -/
structure Family where
  name : String
  ranges : List (Nat × Nat)
  /-- Whether the name has to be written in capitals. -/
  strict : Bool

/-- The sets of signs that share a name. -/
def families : List Family :=
  [⟨"CJK UNIFIED IDEOGRAPH", [(0x3400, 0x4dbf), (0x4e00, 0x9fff), (0x20000, 0x2a6df),
      (0x2a700, 0x2b738), (0x2b740, 0x2b81d), (0x2b820, 0x2cea1), (0x2ceb0, 0x2ebe0),
      (0x30000, 0x3134a)], true⟩,
   ⟨"CJK COMPATIBILITY IDEOGRAPH", [(0xf900, 0xfa6d), (0xfa70, 0xfad9), (0x2f800, 0x2fa1d)],
      false⟩,
   ⟨"KHITAN SMALL SCRIPT CHARACTER", [(0x18b00, 0x18cd5)], false⟩,
   ⟨"NUSHU CHARACTER", [(0x1b170, 0x1b2fb)], false⟩]

/-- Whether a character is a hexadecimal digit, a letter being a capital. -/
def isHexCapital (c : Char) : Bool := (hexDigit? c).isSome && upper c == c

/-- The code point in a name of a set. -/
def inFamily (name : List Char) (f : Family) : Option Nat :=
  let given := if f.strict then name else name.map upper
  let start := (f.name ++ "-").toList
  let digits := given.drop start.length
  let code := hexValue digits
  if start.isPrefixOf given && (digits.length == 4 || digits.length == 5) &&
      digits.all isHexCapital && f.ranges.any fun r => r.1 ≤ code && code ≤ r.2 then
    some code
  else none

/-! ## Korean syllables -/

/-- The names of the first parts. -/
def leads : List String :=
  ["G", "GG", "N", "D", "DD", "R", "M", "B", "BB", "S", "SS", "", "J", "JJ", "C", "K", "T", "P",
   "H"]

/-- The names of the middle parts. -/
def vowels : List String :=
  ["A", "AE", "YA", "YAE", "EO", "E", "YEO", "YE", "O", "WA", "WAE", "OE", "YO", "U", "WEO", "WE",
   "WI", "YU", "EU", "YI", "I"]

/-- The names of the last parts. -/
def trails : List String :=
  ["", "G", "GG", "GS", "N", "NJ", "NH", "D", "L", "LG", "LM", "LB", "LS", "LT", "LP", "LH", "M",
   "B", "BS", "S", "SS", "NG", "J", "C", "K", "T", "P", "H"]

/-- The positions of the longest part that begins a name, and what follows it. -/
def longestPart (parts : List String) (name : List Char) : Option (Nat × List Char) :=
  let fits := parts.zipIdx.filter fun p => p.1.toList.isPrefixOf name
  (fits.foldl (fun (best : Option (String × Nat)) p =>
    match best with
    | some b => if b.1.length < p.1.length then some p else best
    | none => some p) none).map fun p => (p.2, name.drop p.1.length)

/-- The code point of a syllable's name. -/
def syllable (name : List Char) : Option Nat :=
  let start := "HANGUL SYLLABLE ".toList
  if start.isPrefixOf name then do
    let (l, rest) ← longestPart leads (name.drop start.length)
    let (v, rest) ← longestPart vowels rest
    let (t, rest) ← longestPart trails rest
    if rest.isEmpty then some (0xac00 + (l * vowels.length + v) * trails.length + t) else none
  else none

/-! ## Selectors -/

/-- The code point of a selector of variants, which is named by `VS` and its number. -/
def selector (name : List Char) : Option Nat :=
  match name.map upper with
  | 'V' :: 'S' :: digits =>
    let n := digits.foldl (fun n c => 10 * n + (c.toNat - 48)) 0
    if digits.isEmpty || digits.head? == some '0' || !digits.all Char.isDigit then none
    else if n ≤ 16 then some (0xfe00 + n - 1)
    else if n ≤ 256 then some (0xe0100 + n - 17)
    else none
  | _ => none

end Name

/-- The code point of the character with this name, if there is one. -/
def codeOfName? (name : List Char) : Option Nat :=
  let byRule := Name.syllable :: Name.selector :: Name.families.map fun f name => Name.inFamily name f
  match byRule.findSome? fun rule => rule name with
  | some n => some n
  | none =>
    if name.isEmpty then none
    else
      let words := splitChars ' ' (name.map Name.upper)
      [Name.aliasText, Name.tableText1, Name.tableText2, Name.tableText3,
        Name.tableText4].findSome? (Name.inTable words)

end Standin.Text
