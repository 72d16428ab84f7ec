/-
Which files hold modules that may be opened.

A file is a candidate by its path alone: it is source text, it belongs to no
installed package, it is not one of the modules of tests, it lies in one of the
roots, and no pattern excludes it.
-/
import Standin.Path
import Standin.Text.Glob
import Standin.Config

set_option autoImplicit false

namespace Standin

/-- Where modules are opened: the directories, and the patterns of paths that it leaves alone.  A
pattern is used as it was set; what is no text fails when it is tried. -/
structure Finder where
  roots : List Path
  exclude : List Value
  deriving Inhabited

namespace Finder

/-- The ending of source files. -/
def sourceEnding : String := ".py"

/-- The directories of installed packages. -/
def packageDirs : List String := ["site-packages", "dist-packages"]

/-- The names of the modules of tests. -/
def testPatterns : List String := ["test_*.py", "*_test.py", "conftest.py"]

/-- Whether the path is that of a module that might be opened, wherever it lies. -/
def isModuleFile (p : Path) : Bool :=
  p.ending == sourceEnding && !packageDirs.any p.parts.contains &&
    !testPatterns.any fun t => (Text.Glob.ofText t).covers p.name

/-- Whether the path lies in one of the roots. -/
def isInside (f : Finder) (p : Path) : Bool := f.roots.any p.isIn

/-- Whether one of the patterns covers the path. -/
def isExcluded (p : Path) : List Value → Except ListError Bool
  | [] => .ok false
  | .literal (.text t) :: rest =>
    if (Text.Glob.ofText t).covers p.text then .ok true else isExcluded p rest
  | v :: _ => .error (.noPath v)

/-- Whether the module in the file may be opened. -/
def admits (f : Finder) (p : Path) : Except ListError Bool :=
  if isModuleFile p && f.isInside p then (isExcluded p f.exclude).map (!·) else .ok false

end Finder

end Standin
