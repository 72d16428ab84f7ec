/-
TOML documents.

A document is read line by line into nested tables.  Which tables may still be
changed is kept beside them as marks on keys: a table that has been declared, or
that a dotted key has run through, is not declared again, and nothing is added to
what was written between brackets or braces.
-/
import Standin.Config.Toml.Scalar

set_option autoImplicit false

namespace Standin.Toml

/-- A dotted key. -/
abbrev Key := List String

/-- The entries of a table. -/
abbrev Entries := List (Value × Value)

/-- What a table holds under a name. -/
def valueAt (name : String) : Entries → Option Value
  | [] => none
  | (.literal (.text s), v) :: rest => if s = name then some v else valueAt name rest
  | _ :: rest => valueAt name rest

/-- The entries with a value under a name, in its place if it was there. -/
def putEntry (name : String) (v : Value) : Entries → Entries
  | [] => [(.text name, v)]
  | (.literal (.text s), w) :: rest =>
    if s = name then (.text s, v) :: rest else (.text s, w) :: putEntry name v rest
  | e :: rest => e :: putEntry name v rest

/-- Changes the table behind a key; tables on the way come into being.  With `lists` a list on the
way stands for its last item.  There is no table behind a key that runs into another value. -/
def changeTable (lists : Bool) (f : Entries → Option Entries) : Key → Entries → Option Entries
  | [], entries => f entries
  | name :: key, entries =>
    match valueAt name entries with
    | none => (changeTable lists f key []).map fun inner => putEntry name (.dict inner) entries
    | some (.dict inner) =>
      (changeTable lists f key inner).map fun inner => putEntry name (.dict inner) entries
    | some (.list items) =>
      match lists, items.getLast? with
      | true, some (.dict inner) =>
        (changeTable lists f key inner).map fun inner =>
          putEntry name (.list (items.dropLast ++ [.dict inner])) entries
      | _, _ => none
    | some _ => none

/-- A mark on a key. -/
inductive Mark where
  /-- The table was declared. -/
  | declared
  /-- The value, with all in it, is complete. -/
  | complete
  deriving DecidableEq, Repr

/-- The marks that have been set. -/
abbrev Marks := List (Key × Mark)

/-- Whether a key has a mark; a value that is complete has the mark for all keys below it. -/
def Marks.has (marks : Marks) (key : Key) (mark : Mark) : Bool :=
  marks.any fun m =>
    m.2 = mark && (m.1 == key || (mark = .complete && !m.1.isEmpty && m.1.isPrefixOf key))

/-- Takes away the marks of a key and of all below it. -/
def Marks.clear (marks : Marks) (key : Key) : Marks := marks.filter fun m => !key.isPrefixOf m.1

/-- What has been read of a document: its tables, the marks, the keys that are to be marked as
declared from the next header on, and the key of the current table. -/
structure Document where
  entries : Entries
  marks : Marks
  pending : List Key
  header : Key

/-! ## Keys -/

/-- One part of a key. -/
def keyPart (cs : List Char) : Reading (String × List Char) :=
  match cs with
  | [] => .error .malformed
  | c :: rest =>
    if isBareKey c then .ok (String.ofList (cs.takeWhile isBareKey), cs.dropWhile isBareKey)
    else if c = '\'' then (literalText rest).map fun r => (String.ofList r.1, r.2)
    else if c = '"' then
      (quotedText false (rest.length + 1) rest).map fun r => (String.ofList r.1, r.2)
    else .error .malformed

/-- A key with the blanks after it.  Each part takes a character. -/
def dottedKey : Nat → List Char → Reading (Key × List Char)
  | 0, _ => .error .malformed
  | fuel + 1, cs => do
    let (part, rest) ← keyPart cs
    match skipInline rest with
    | '.' :: rest =>
      let (key, rest) ← dottedKey fuel (skipInline rest)
      return (part :: key, rest)
    | rest => return ([part], rest)

/-- A key. -/
def readKey (cs : List Char) : Reading (Key × List Char) := dottedKey (cs.length + 1) cs

/-! ## Values -/

/-- Skips blanks, ends of lines and comments. -/
def skipAll : Nat → List Char → Reading (List Char)
  | 0, cs => .ok cs
  | fuel + 1, cs => do
    let rest ← skipComment (cs.dropWhile isBlank)
    if rest.length = cs.length then return rest else skipAll fuel rest

/-- Whether a value is a table or a list. -/
def isNest : Value → Bool
  | .dict _ | .list _ => true
  | _ => false

/-- Puts a value under a dotted key, where nothing stands yet. -/
def putNew (lists : Bool) (key : Key) (v : Value) (entries : Entries) : Reading Entries :=
  let name := key.getLast?.getD ""
  let add (inner : Entries) : Option Entries :=
    if (valueAt name inner).isSome then none else some (putEntry name v inner)
  match changeTable lists add key.dropLast entries with
  | some entries => .ok entries
  | none => .error .malformed

mutual

/-- A value.  Each step takes a character, so that `fuel` beyond twice their number is enough. -/
def value : Nat → List Char → Reading (Value × List Char)
  | 0, _ => .error .malformed
  | fuel + 1, cs => do
    match cs with
    | '[' :: rest =>
      let rest ← skipAll rest.length rest
      match rest with
      | ']' :: rest => return (.list [], rest)
      | rest =>
        let (items, rest) ← listItems fuel rest
        return (.list items, rest)
    | c :: rest =>
      if c = '\x7b' then
        match skipInline rest with
        | '\x7d' :: rest => return (.dict [], rest)
        | rest =>
          let (entries, rest) ← tableItems fuel [] [] rest
          return (.dict entries, rest)
      else scalar cs
    | [] => throw .malformed

/-- The items of a list that has begun, up to its end. -/
def listItems : Nat → List Char → Reading (List Value × List Char)
  | 0, _ => .error .malformed
  | fuel + 1, cs => do
    let (v, rest) ← value fuel cs
    let rest ← skipAll rest.length rest
    match rest with
    | ']' :: rest => return ([v], rest)
    | ',' :: rest =>
      let rest ← skipAll rest.length rest
      match rest with
      | ']' :: rest => return ([v], rest)
      | rest =>
        let (items, rest) ← listItems fuel rest
        return (v :: items, rest)
    | _ => throw .malformed

/-- The entries of a table in braces that has begun, up to its end. -/
def tableItems : Nat → Marks → Entries → List Char → Reading (Entries × List Char)
  | 0, _, _, _ => .error .malformed
  | fuel + 1, marks, entries, cs => do
    let (key, rest) ← readKey cs
    match rest with
    | '=' :: rest =>
      let (v, rest) ← value fuel (skipInline rest)
      if marks.has key .complete then throw .malformed
      let entries ← putNew false key v entries
      match skipInline rest with
      | ',' :: rest =>
        let marks := if isNest v then (key, .complete) :: marks else marks
        tableItems fuel marks entries (skipInline rest)
      | c :: rest => if c = '\x7d' then return (entries, rest) else throw .malformed
      | [] => throw .malformed
    | _ => throw .malformed

end

/-! ## Lines -/

/-- The header of a table: `[key]`. -/
def tableHeader (d : Document) (cs : List Char) : Reading (Document × List Char) := do
  let (key, rest) ← readKey (skipInline cs)
  if d.marks.has key .declared || d.marks.has key .complete then throw .malformed
  match changeTable true some key d.entries, rest with
  | some entries, ']' :: rest =>
    return ({ d with entries := entries, marks := (key, .declared) :: d.marks, header := key }, rest)
  | _, _ => throw .malformed

/-- Puts an empty table at the end of a list of tables, which may come into being. -/
def addToList (name : String) (entries : Entries) : Option Entries :=
  match valueAt name entries with
  | none => some (putEntry name (.list [.dict []]) entries)
  | some (.list items) => some (putEntry name (.list (items ++ [.dict []])) entries)
  | some _ => none

/-- The header of an item of a list of tables: `[[key]]`. -/
def itemHeader (d : Document) (cs : List Char) : Reading (Document × List Char) := do
  let (key, rest) ← readKey (skipInline cs)
  if d.marks.has key .complete then throw .malformed
  match changeTable true (addToList (key.getLast?.getD "")) key.dropLast d.entries, rest with
  | some entries, ']' :: ']' :: rest =>
    return ({ d with
      entries := entries, marks := (key, .declared) :: d.marks.clear key, header := key }, rest)
  | _, _ => throw .malformed

/-- The parts of a key that are tables on its way: all beginnings of it but itself. -/
def waypoints (key : Key) : List Key := (List.range (key.length - 1)).map fun i => key.take (i + 1)

/-- A line that gives a key its value. -/
def assignment (d : Document) (cs : List Char) : Reading (Document × List Char) := do
  let (key, rest) ← readKey cs
  match rest with
  | '=' :: rest =>
    let (v, rest) ← value (2 * rest.length + 2) (skipInline rest)
    -- A dotted key may not add to a table that a header has declared.
    let on := (waypoints key).map (d.header ++ ·)
    if on.any (d.marks.has · .declared) then throw .malformed
    if d.marks.has (d.header ++ key.dropLast) .complete then throw .malformed
    let entries ← putNew true (d.header ++ key) v d.entries
    let marks := if isNest v then (d.header ++ key, .complete) :: d.marks else d.marks
    return ({ d with entries := entries, marks := marks, pending := on ++ d.pending }, rest)
  | _ => throw .malformed

/-- From a header on, the keys that lines have run through count as declared. -/
def settle (d : Document) : Document :=
  { d with marks := d.pending.map (·, .declared) ++ d.marks, pending := [] }

/-- Reads what stands on a line, up to its comment. -/
def line (d : Document) (cs : List Char) : Reading (Document × List Char) :=
  match cs with
  | '[' :: '[' :: rest => itemHeader (settle d) rest
  | '[' :: rest => tableHeader (settle d) rest
  | c :: _ =>
    if isBareKey c || c = '"' || c = '\'' then assignment d cs
    else if c = '#' then .ok (d, cs)
    else .error .malformed
  | [] => .ok (d, [])

/-- Reads line after line. -/
def lines : Nat → Document → List Char → Reading Entries
  | 0, _, _ => .error .malformed
  | fuel + 1, d, cs => do
    match skipInline cs with
    | [] => return d.entries
    | '\n' :: rest => lines fuel d rest
    | cs =>
      let (d, rest) ← line d cs
      match ← skipComment (skipInline rest) with
      | [] => return d.entries
      | '\n' :: rest => lines fuel d rest
      | _ => throw .malformed

/-- A carriage return before a line feed is no part of the text. -/
def unifyBreaks : List Char → List Char
  | '\r' :: '\n' :: rest => '\n' :: unifyBreaks rest
  | c :: rest => c :: unifyBreaks rest
  | [] => []

/-- Reads a document. -/
def read (s : String) : Reading Entries :=
  let cs := unifyBreaks s.toList
  lines (cs.length + 1) ⟨[], [], [], []⟩ cs

end Standin.Toml
