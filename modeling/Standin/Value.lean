/-
Values: what settings and modules hold.
-/
import Standin.Source.Tree
import Standin.Number.Shortest

set_option autoImplicit false

namespace Standin

open Number (Binary64)

/-- A day. -/
structure Date where
  year : Nat
  month : Nat
  day : Nat
  deriving DecidableEq, Repr, Inhabited

/-- A time of day, in hours, minutes, seconds and millionths of a second. -/
structure Time where
  hour : Nat
  minute : Nat
  second : Nat
  micro : Nat
  deriving DecidableEq, Repr, Inhabited

/-- A value. -/
inductive Value where
  | literal (v : Source.Literal)
  | list (items : List Value)
  | tuple (items : List Value)
  | dict (entries : List (Value × Value))
  /-- A day and a time, with the minutes that its clock is ahead of the universal one if that is
  known. -/
  | dateTime (date : Date) (time : Time) (offset : Option Int)
  | date (date : Date)
  | time (time : Time)
  deriving Repr, Inhabited

namespace Value

/-- The value that is nothing. -/
def nothing : Value := .literal .none

def bool (b : Bool) : Value := .literal (.bool b)

def int (n : Int) : Value := .literal (.int n)

def text (s : String) : Value := .literal (.text s)

/-- Whether the value is nothing. -/
def isNothing : Value → Bool
  | .literal .none => true
  | _ => false

/-- Whether the value counts as true: nothing, false, zero and what is empty do not. -/
def isTrue : Value → Bool
  | .literal .none => false
  | .literal (.bool b) => b
  | .literal (.int n) => n != 0
  | .literal (.real x) => !x.isZero
  | .literal (.complex re im) => !(re.isZero && im.isZero)
  | .literal (.text s) => !s.isEmpty
  | .literal (.surrogates codes) => !codes.isEmpty
  | .literal (.bytes bs) => !bs.isEmpty
  | .literal .ellipsis => true
  | .list items | .tuple items => !items.isEmpty
  | .dict entries => !entries.isEmpty
  | .dateTime .. | .date .. | .time .. => true

/-- The name of the value's type. -/
def typeName : Value → String
  | .literal .none => "NoneType"
  | .literal (.bool _) => "bool"
  | .literal (.int _) => "int"
  | .literal (.real _) => "float"
  | .literal (.complex _ _) => "complex"
  | .literal (.text _) | .literal (.surrogates _) => "str"
  | .literal (.bytes _) => "bytes"
  | .literal .ellipsis => "ellipsis"
  | .list _ => "list"
  | .tuple _ => "tuple"
  | .dict _ => "dict"
  | .dateTime .. => "datetime"
  | .date _ => "date"
  | .time _ => "time"

/-- The name of the value's type, with the module that it is from. -/
def qualifiedTypeName (v : Value) : String :=
  match v with
  | .dateTime .. | .date .. | .time .. => "datetime." ++ v.typeName
  | v => v.typeName

/-- The items that the value gives one after another: those of a list, the characters of a text, the
keys of a dictionary.  Other values give none. -/
def items? : Value → Option (List Value)
  | .list items | .tuple items => some items
  | .dict entries => some (entries.map Prod.fst)
  | .literal (.text s) => some (s.toList.map fun c => .text (String.ofList [c]))
  | .literal (.surrogates codes) => some (codes.map fun n => .literal (.ofCodes [n]))
  | .literal (.bytes bs) => some (bs.map fun b => .int b.toNat)
  | _ => none

end Value

/-! ## Days and times as text -/

/-- A number with at least `width` digits. -/
def padded (width n : Nat) : String :=
  let ds := Nat.toDigits 10 n
  String.ofList (List.replicate (width - ds.length) '0' ++ ds)

def Date.text (d : Date) : String :=
  padded 4 d.year ++ "-" ++ padded 2 d.month ++ "-" ++ padded 2 d.day

/-- Millionths are left out when there are none. -/
def Time.text (t : Time) : String :=
  padded 2 t.hour ++ ":" ++ padded 2 t.minute ++ ":" ++ padded 2 t.second ++
    (if t.micro = 0 then "" else "." ++ padded 6 t.micro)

/-- The difference of a clock from the universal one. -/
def offsetText (minutes : Int) : String :=
  let n := minutes.natAbs
  (if minutes < 0 then "-" else "+") ++ padded 2 (n / 60) ++ ":" ++ padded 2 (n % 60)

/-- A day and a time. -/
def dateTimeText (d : Date) (t : Time) (offset : Option Int) : String :=
  d.text ++ "T" ++ t.text ++ (offset.map offsetText).getD ""

end Standin
