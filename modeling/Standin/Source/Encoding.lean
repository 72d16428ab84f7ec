/-
The encoding of a source file.

A file says in a comment on one of its first two lines how its characters are
spelled as bytes; a file that says nothing is in UTF-8, which a mark of three
bytes in front may stress.  A declaration is looked for in the bytes themselves,
so the lines it may stand on have to be UTF-8 whatever it says.
-/
import Standin.Text.Utf8
import Standin.Text.CharTable
import Standin.Text.Word

set_option autoImplicit false

namespace Standin.Source

/-- How characters are spelled as bytes. -/
inductive Encoding where
  | utf8
  /-- One byte for each of the first 256 characters. -/
  | latin1
  /-- One byte for each of the first 128 characters, and no others. -/
  | ascii
  deriving DecidableEq, Repr

namespace Encoding

/-- The characters that bytes spell. -/
def decode : Encoding → List UInt8 → Option (List Char)
  | .utf8, bytes => Text.decodeUtf8 bytes
  | .latin1, bytes => some (bytes.map fun b => Char.ofNat b.toNat)
  | .ascii, bytes =>
    if bytes.all (·.toNat < 128) then some (bytes.map fun b => Char.ofNat b.toNat) else none

/-! ## Names of encodings -/

/-- The lower-case form of a Latin letter; other characters stay. -/
def lower (c : Char) : Char := c.toLower

/-- A name as it is compared: each run of characters that are neither letters nor digits nor dots is
one underscore, and there is none at either end. -/
def plainName (name : List Char) : List Char :=
  let keeps (c : Char) : Bool := c.isAlphanum || c == '.'
  let words := (Text.splitChars ' ' (name.map fun c => if keeps c then lower c else ' ')).filter
    (!·.isEmpty)
  ['_'].intercalate words

/-- The names of UTF-8. -/
def utf8Names : List String := ["utf_8", "u8", "utf", "utf8", "utf8_ucs2", "utf8_ucs4", "cp65001"]

/-- The names of Latin-1. -/
def latin1Names : List String :=
  ["latin_1", "8859", "cp819", "csisolatin1", "ibm819", "iso8859", "iso8859_1", "iso_8859_1",
   "iso_8859_1_1987", "iso_ir_100", "l1", "latin", "latin1"]

/-- The names of ASCII. -/
def asciiNames : List String :=
  ["ascii", "646", "ansi_x3_4_1968", "ansi_x3_4_1986", "cp367", "csascii", "ibm367", "iso646_us",
   "iso_646_irv_1991", "iso_ir_6", "us", "us_ascii"]

/-- Whether a name is one of the family `base`: the name itself, or with something after a hyphen. -/
def isOfFamily (base : String) (name : List Char) : Bool :=
  name == base.toList || (base.toList ++ ['-']).isPrefixOf name

/-- The beginning of a name, as families are told by it. -/
def familyName (name : List Char) : List Char :=
  (name.take 12).map fun c => if c == '_' then '-' else lower c

/-- Whether a name is one of those that may follow the mark. -/
def isMarkedName (name : List Char) : Bool := isOfFamily "utf-8" (familyName name)

/-- The encoding of a name. -/
def ofName? (name : List Char) : Option Encoding :=
  if isMarkedName name then some .utf8
  else if ["latin-1", "iso-8859-1", "iso-latin-1"].any (isOfFamily · (familyName name)) then
    some .latin1
  else
    let plain := (plainName name).map fun c => if c == '.' then '_' else c
    let known (names : List String) : Bool := names.any (·.toList == plain)
    if known utf8Names then some .utf8
    else if known latin1Names then some .latin1
    else if known asciiNames then some .ascii
    else none

/-! ## Declarations -/

/-- A character of an encoding's name. -/
def isNameChar (c : Char) : Bool := c.isAlphanum || c == '_' || c == '-' || c == '.'

/-- A blank that may stand before a comment. -/
def isIndent (c : Char) : Bool := c == ' ' || c == '\t' || c == '\x0c'

/-- The name that stands at the beginning, after a sign and blanks. -/
def nameAfterSign : List Char → Option (List Char)
  | c :: rest =>
    if c == ':' || c == '=' then
      let name := (rest.dropWhile fun c => c == ' ' || c == '\t').takeWhile isNameChar
      if name.isEmpty then none else some name
    else none
  | [] => none

/-- The name in the first declaration in a comment. -/
def nameInComment : List Char → Option (List Char)
  | [] => none
  | c :: rest =>
    let found := if "coding".toList.isPrefixOf (c :: rest) then
        nameAfterSign ((c :: rest).drop "coding".length) else none
    match found with
    | some name => some name
    | none => nameInComment rest

/-- The name that a line declares, if it is a comment that declares one. -/
def declaredName (line : List Char) : Option (List Char) :=
  match line.dropWhile isIndent with
  | '#' :: comment => nameInComment comment
  | _ => none

/-- Whether a line says nothing, so that the next one may hold the declaration. -/
def isSilent (line : List Char) : Bool :=
  match line.dropWhile isIndent with
  | [] => true
  | c :: _ => c == '#' || c == '\r'

/-- The line at the beginning, without its end, and what follows it if it has an end. -/
def firstLine (bytes : List UInt8) : List UInt8 × Option (List UInt8) :=
  match bytes.dropWhile (· != 10) with
  | [] => (bytes, none)
  | _ :: rest => (bytes.takeWhile (· != 10), some rest)

/-- The bytes of the mark. -/
def mark : List UInt8 := [0xef, 0xbb, 0xbf]

/-- The encoding that a declared name gives; after the mark it has to be UTF-8. -/
def chosen (marked : Bool) (name : List Char) : Option Encoding :=
  match ofName? name with
  | none => none
  | some e => if marked && !isMarkedName name then none else some e

/-- The encoding that the first lines declare, or UTF-8. -/
def declared (marked : Bool) (bytes : List UInt8) : Option Encoding := do
  let (first, rest) := firstLine bytes
  let line ← Text.decodeUtf8 first
  match declaredName line with
  | some name => chosen marked name
  | none =>
    match isSilent line, rest with
    | true, some rest =>
      let second ← Text.decodeUtf8 (firstLine rest).1
      match declaredName second with
      | some name => chosen marked name
      | none => some .utf8
    | _, _ => some .utf8

end Encoding

/-- The text with all line ends alike.  A carriage return that nothing follows is left out. -/
def unifyEnds : List Char → List Char
  | '\r' :: '\n' :: rest => '\n' :: unifyEnds rest
  | ['\r'] => []
  | '\r' :: rest => '\n' :: unifyEnds rest
  | c :: rest => c :: unifyEnds rest
  | [] => []

/-- The text of a source file, if it can be read in the encoding that the file declares. -/
def decodeSource (bytes : List UInt8) : Option String := do
  let marked := Encoding.mark.isPrefixOf bytes
  let bytes := if marked then bytes.drop 3 else bytes
  let encoding ← Encoding.declared marked bytes
  let cs ← encoding.decode bytes
  return String.ofList (unifyEnds cs)

end Standin.Source
