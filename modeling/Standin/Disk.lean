/-
Files, directories and links.

A disk is a list of files and links; a directory is there when something is in
it.  A path is followed part by part from the top: a link is replaced by what it
points to, and two dots lead out of the directory that has been reached, which
need not be the one that was named.  Links may point in circles, so the number of
links that are followed is limited.
-/
import Standin.Path

set_option autoImplicit false

namespace Standin

/-- What a name on a disk stands for. -/
inductive Entry where
  | file (bytes : List UInt8)
  /-- The place, from the top, that is meant instead. -/
  | link (target : List String)
  deriving DecidableEq, Repr

/-- A disk: the places of its files and links, from the top, and the directories that are there even
if nothing is in them. -/
structure Disk where
  entries : List (List String × Entry)
  directories : List (List String)
  deriving Inhabited

/-- What a path leads to. -/
inductive Target where
  | directory
  | file (bytes : List UInt8)
  deriving DecidableEq, Repr

namespace Disk

/-- The number of links that are followed on one path. -/
def linkLimit : Nat := 40

/-- What stands at a place. -/
def entryAt (d : Disk) (place : List String) : Option Entry :=
  (d.entries.find? (·.1 == place)).map (·.2)

/-- Whether a place is a directory: something is in it, or it is one of those that are always
there. -/
def isDirectoryAt (d : Disk) (place : List String) : Bool :=
  let inside (other : List String) : Bool := place.isPrefixOf other
  d.entries.any (fun e => inside e.1 && e.1 != place) || d.directories.any inside

/-- Follows the parts of a path from a directory, `here` being the parts of its place, the last one
first.  The answer is nothing if the path leads nowhere; `jump` answers for a link, given what is
left to follow from the top. -/
def locateAlong (d : Disk) (jump : List String → Option Target) (here : List String) :
    List String → Option Target
  | [] => some .directory
  | part :: rest =>
    if part = ".." then d.locateAlong jump (here.drop 1) rest
    else
      let place := part :: here
      match d.entryAt place.reverse with
      | some (.file bytes) => if rest.isEmpty then some (.file bytes) else none
      | some (.link target) => jump (target ++ rest)
      | none => if d.isDirectoryAt place.reverse then d.locateAlong jump place rest else none

/-- Follows the parts of a path from a directory and no more than a number of links. -/
def locateFrom (d : Disk) : Nat → List String → List String → Option Target
  | 0 => d.locateAlong fun _ => none
  | links + 1 => d.locateAlong (d.locateFrom links [])

/-- What a path leads to, if it leads anywhere. -/
def locate (d : Disk) (p : Path) : Option Target := d.locateFrom linkLimit [] p.parts

/-- Whether a path leads to a file. -/
def isFile (d : Disk) (p : Path) : Bool :=
  match d.locate p with
  | some (.file _) => true
  | _ => false

/-- Whether a path leads to a directory. -/
def isDirectory (d : Disk) (p : Path) : Bool := d.locate p == some .directory

/-- The bytes of the file that a path leads to. -/
def read? (d : Disk) (p : Path) : Option (List UInt8) :=
  match d.locate p with
  | some (.file bytes) => some bytes
  | _ => none

/-- Follows the parts of a path as far as there are links on it; what is not there is named as it
stands.  `jump` goes on from the top after a link, if links are followed. -/
def resolveAlong (d : Disk) (jump : Option (List String → List String)) (here : List String) :
    List String → List String
  | [] => here.reverse
  | part :: rest =>
    if part = ".." then d.resolveAlong jump (here.drop 1) rest
    else
      match d.entryAt (part :: here).reverse, jump with
      | some (.link target), some jump => jump (target ++ rest)
      | _, _ => d.resolveAlong jump (part :: here) rest

/-- Follows the parts of a path and no more than a number of links. -/
def resolveFrom (d : Disk) : Nat → List String → List String → List String
  | 0 => d.resolveAlong none
  | links + 1 => d.resolveAlong (some (d.resolveFrom links []))

/-- The path of the same place without links and double dots. -/
def resolve (d : Disk) (p : Path) : Path := ⟨.slash, d.resolveFrom linkLimit [] p.parts⟩

end Disk

end Standin
