/-
Escapes of string literals.

What a string literal stands for is a list of code points, since an escape can
name a surrogate, which is no character.
-/
import Standin.Source.Tree
import Standin.Text.Name

set_option autoImplicit false

namespace Standin.Source.Escape

open Standin.Text (hexDigit? hexValue codeOfName?)

def isHex (c : Char) : Bool := (hexDigit? c).isSome

def isOctal (c : Char) : Bool := '0' ≤ c && c ≤ '7'

/-- The code point of an escape of one character, where a text and a byte string agree. -/
def simple? (c : Char) : Option Nat :=
  match c with
  | '\\' => some 92
  | '\'' => some 39
  | '"' => some 34
  | 'a' => some 7
  | 'b' => some 8
  | 'f' => some 12
  | 'n' => some 10
  | 'r' => some 13
  | 't' => some 9
  | 'v' => some 11
  | _ => none

/-- The number that exactly `count` hexadecimal digits at the head of the text spell. -/
def hexEscape? (count : Nat) (cs : List Char) : Option Nat :=
  let ds := cs.take count
  if ds.length = count ∧ ds.all isHex then some (hexValue ds) else none

/-- One to three octal digits at the head of the text. -/
def octalRun (cs : List Char) : List Char :=
  (cs.take 3).takeWhile isOctal

/-- The number that octal digits spell. -/
def octalValue (ds : List Char) : Nat :=
  ds.foldl (fun n c => 8 * n + (c.toNat - 48)) 0

/-- The name between braces at the head of the text, and how many characters it takes in all. -/
def braced? (cs : List Char) : Option (List Char × Nat) :=
  match cs with
  | '\x7b' :: rest =>
    let name := rest.takeWhile (· != '\x7d')
    if name.length < rest.length ∧ name ≠ [] then some (name, name.length + 2) else none
  | _ => none

/-- The escape whose backslash stands right before `c :: rest`: the code points it stands for and
how many characters of `rest` belong to it.  An unknown escape stands for itself. -/
def textEscape (c : Char) (rest : List Char) : Option (List Nat × Nat) :=
  if c = '\n' then some ([], 0)
  else match simple? c with
  | some n => some ([n], 0)
  | none =>
    if isOctal c then
      let ds := octalRun (c :: rest)
      some ([octalValue ds], ds.length - 1)
    else match c with
    | 'x' => (hexEscape? 2 rest).map fun n => ([n], 2)
    | 'u' => (hexEscape? 4 rest).map fun n => ([n], 4)
    | 'U' =>
      match hexEscape? 8 rest with
      | some n => if n ≤ 0x10ffff then some ([n], 8) else none
      | none => none
    | 'N' => do
      let (name, used) ← braced? rest
      let n ← codeOfName? name
      some ([n], used)
    | _ => some ([92, c.toNat], 0)

/-- The same for a byte string, which knows no names and no escapes of more than one byte. -/
def bytesEscape (c : Char) (rest : List Char) : Option (List Nat × Nat) :=
  if c = '\n' then some ([], 0)
  else match simple? c with
  | some n => some ([n], 0)
  | none =>
    if isOctal c then
      let ds := octalRun (c :: rest)
      some ([octalValue ds], ds.length - 1)
    else match c with
    | 'x' => (hexEscape? 2 rest).map fun n => ([n], 2)
    | _ => some ([92, c.toNat], 0)

/-- Decodes the characters between the quotes of a literal; the escapes are read by `escape`.
`skip` counts the characters that belong to the escape just read. -/
def decodeWith (escape : Char → List Char → Option (List Nat × Nat)) :
    Nat → List Char → Option (List Nat)
  | _, [] => some []
  | skip + 1, _ :: rest => decodeWith escape skip rest
  | 0, '\\' :: c :: rest =>
    match escape c rest with
    | none => none
    | some (codes, used) => (decodeWith escape used rest).map (codes ++ ·)
  | 0, c :: rest => (decodeWith escape 0 rest).map (c.toNat :: ·)

/-- What the characters between the quotes of a text stand for; `none` for a wrong escape. -/
def decodeText (raw : Bool) (body : List Char) : Option (List Nat) :=
  if raw then some (body.map Char.toNat) else decodeWith textEscape 0 body

/-- What the characters between the quotes of a byte string stand for; only ASCII may be used. -/
def decodeBytes (raw : Bool) (body : List Char) : Option (List UInt8) :=
  if body.all (·.toNat < 128) then
    (if raw then some (body.map Char.toNat) else decodeWith bytesEscape 0 body).map
      (·.map UInt8.ofNat)
  else none

end Standin.Source.Escape
