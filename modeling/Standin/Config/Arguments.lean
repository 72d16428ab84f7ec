/-
The command line.

Three options are known; other arguments are names of files and are left alone.
Two dashes end the options.  When no file has been named before them, they only
end a first reading: what follows is read once more, and options in it count.
-/
import Standin.Config

set_option autoImplicit false

namespace Standin.Arguments

/-- What an argument says, once an option has its value. -/
inductive Item where
  | enable
  | paths (value : String)
  | autoreset
  /-- The name of a file. -/
  | plain (text : String)
  /-- Two dashes, and the arguments after them. -/
  | ending (rest : List String)
  deriving DecidableEq, Repr

/-- The option that switches the opening of modules on. -/
def enableName : String := "--mockingbird"

/-- The option that names the directories. -/
def pathsName : String := "--mockingbird-paths"

/-- The option that undoes everything after each test. -/
def autoresetName : String := "--mockingbird-autoreset"

/-- The names of the options. -/
def optionNames : List String := [enableName, pathsName, autoresetName]

/-- Whether the text is a number below zero. -/
def isNegativeNumber : List Char → Bool
  | '-' :: cs =>
    let whole := cs.takeWhile Char.isDigit
    match cs.drop whole.length with
    | [] => !whole.isEmpty
    | '.' :: fraction => !fraction.isEmpty && fraction.all Char.isDigit
    | _ => false
  | _ => false

/-- The part of an argument before its first equals sign, and the part after it if there is one. -/
def splitValue (arg : String) : String × Option String :=
  let cs := arg.toList
  match cs.dropWhile (· != '=') with
  | [] => (arg, none)
  | _ :: value => (String.ofList (cs.takeWhile (· != '=')), some (String.ofList value))

/-- Whether an argument looks like an option, known or not.  A dash alone, a negative number and
what has a space in it do not, unless they begin with the name of an option. -/
def isOption (arg : String) : Bool :=
  arg.toList.head? == some '-' &&
    (optionNames.contains (splitValue arg).1 ||
      !(arg == "-" || isNegativeNumber arg.toList || arg.toList.contains ' '))

/-- What the arguments say.  There is no answer if an option is unknown, has a value that it does
not take, or lacks one that it needs. -/
def items : List String → Option (List Item)
  | [] => some []
  | arg :: rest =>
    if arg = "--" then some [.ending rest]
    else if isOption arg then
      match splitValue arg with
      | (name, some value) =>
        if name = pathsName then (items rest).map (.paths value :: ·) else none
      | (name, none) =>
        if name = enableName then (items rest).map (.enable :: ·)
        else if name = autoresetName then (items rest).map (.autoreset :: ·)
        else if name = pathsName then
          match rest with
          | value :: rest =>
            if value = "--" || isOption value then none
            else (items rest).map (.paths value :: ·)
          | [] => none
        else none
    else (items rest).map (.plain arg :: ·)

namespace Item

/-- Whether the item is no option. -/
def isPlain : Item → Bool
  | .plain _ | .ending _ => true
  | _ => false

/-- The options with what an item says; of two values for one option the later counts. -/
def apply (o : Options) : Item → Options
  | .enable => { o with enabled := true }
  | .paths value => { o with paths := some value }
  | .autoreset => { o with autoreset := true }
  | .plain _ | .ending _ => o

end Item

/-- The options when nothing is said. -/
def unsaid : Options := ⟨false, none, false⟩

/-- Whether all files are named together, with no option in between. -/
def namesFilesOnce (l : List Item) : Bool :=
  !((l.dropWhile (!·.isPlain)).dropWhile (·.isPlain)).any (·.isPlain)

/-- Reads once more what follows two dashes. -/
def readEnding (o : Options) (rest : List String) : Option Options :=
  match items rest with
  | some l => if namesFilesOnce l then some (l.foldl Item.apply o) else none
  | none => none

/-- The options that a command line gives, or nothing if it is not understood.  An argument that
begins with an at sign asks for a file of arguments, and there is none. -/
def read (args : List String) : Option Options :=
  if args.any fun a => a.toList.head? == some '@' then none
  else
    match items args with
    | none => none
    | some l =>
      let o := l.foldl Item.apply unsaid
      match l.find? (·.isPlain) with
      | some (.ending rest) => readEnding o rest
      | _ => some o

end Standin.Arguments
