/-
What modules may use without any file: the names of libraries, and those that are
there in every module.
-/
import Standin.Interface
import Standin.Source.Tree

set_option autoImplicit false

namespace Standin.Library

/-- What a library offers under a name. -/
inductive Offer where
  | cls
  | function
  | constant (value : Source.Literal)
  /-- Anything else. -/
  | other
  deriving DecidableEq, Repr

/-- The library whose names are there in every module. -/
def everywhere : String := "builtins"

/-- The library whose names are directives to the reader of a module. -/
def directives : String := "__future__"

/-- The directive that annotations are not evaluated. -/
def lazyHintsDirective : String := "annotations"

/-- The directives that there are. -/
def knownDirectives : List String :=
  ["nested_scopes", "generators", "division", "absolute_import", "with_statement", "print_function",
   "unicode_literals", "barry_as_FLUFL", "generator_stop", lazyHintsDirective]

/-- The classes of errors that are there in every module. -/
def errorClasses : List String :=
  ["ArithmeticError", "AssertionError", "AttributeError", "BaseException", "BlockingIOError",
   "BrokenPipeError", "BufferError", "BytesWarning", "ChildProcessError", "ConnectionAbortedError",
   "ConnectionError", "ConnectionRefusedError", "ConnectionResetError", "DeprecationWarning",
   "EOFError", "EncodingWarning", "EnvironmentError", "Exception", "FileExistsError",
   "FileNotFoundError", "FloatingPointError", "FutureWarning", "GeneratorExit", "IOError",
   "ImportError", "ImportWarning", "IndentationError", "IndexError", "InterruptedError",
   "IsADirectoryError", "KeyError", "KeyboardInterrupt", "LookupError", "MemoryError",
   "ModuleNotFoundError", "NameError", "NotADirectoryError", "NotImplementedError", "OSError",
   "OverflowError", "PendingDeprecationWarning", "PermissionError", "ProcessLookupError",
   "RecursionError", "ReferenceError", "ResourceWarning", "RuntimeError", "RuntimeWarning",
   "StopAsyncIteration", "StopIteration", "SyntaxError", "SyntaxWarning", "SystemError",
   "SystemExit", "TabError", "TimeoutError", "TypeError", "UnboundLocalError",
   "UnicodeDecodeError", "UnicodeEncodeError", "UnicodeError", "UnicodeTranslateError",
   "UnicodeWarning", "UserWarning", "ValueError", "Warning", "ZeroDivisionError"]

/-- The other classes that are there in every module. -/
def plainClasses : List String :=
  ["bool", "bytearray", "bytes", "classmethod", "complex", "dict", "enumerate", "filter", "float",
   "frozenset", "int", "list", "map", "memoryview", "object", "property", "range", "reversed",
   "set", "slice", "staticmethod", "str", "super", "tuple", "type", "zip"]

/-- The functions and the like that are there in every module. -/
def everywhereOthers : List String :=
  ["NotImplemented", "abs", "aiter", "all", "anext", "any", "ascii", "bin", "breakpoint",
   "callable", "chr", "compile", "delattr", "dir", "divmod", "eval", "exec", "format", "getattr",
   "globals", "hasattr", "hash", "hex", "id", "input", "isinstance", "issubclass", "iter", "len",
   "locals", "max", "min", "next", "oct", "open", "ord", "pow", "print", "repr", "round",
   "setattr", "sorted", "sum", "vars", "__build_class__", "__import__"]

/-- The names that are there in every module. -/
def everywhereOffers : List (String × Offer) :=
  (errorClasses ++ plainClasses).map (·, .cls) ++ everywhereOthers.map (·, .other) ++
    [("Ellipsis", .constant .ellipsis), ("__debug__", .constant (.bool true))]

/-- The names of the library of types for annotations. -/
def typingOffers : List (String × Offer) :=
  ["Annotated", "Callable", "ClassVar", "Collection", "Concatenate", "Container", "Coroutine",
   "DefaultDict", "Deque", "Dict", "Final", "FrozenSet", "Generator", "Hashable", "ItemsView",
   "Iterable", "Iterator", "KeysView", "List", "Literal", "LiteralString", "Mapping",
   "MutableMapping", "MutableSequence", "MutableSet", "Never", "NoReturn", "NotRequired",
   "Optional", "OrderedDict", "Required", "Self", "Sequence", "Set", "Sized", "Tuple", "Type",
   "TypeAlias", "TypeGuard", "Union", "Unpack", "ValuesView"].map (·, .other) ++
  ["Any", "ForwardRef", "Generic", "NewType", "ParamSpec", "Protocol", "TypeVar",
   "TypeVarTuple"].map (·, .cls) ++
  ["NamedTuple", "TypedDict", "assert_never", "assert_type", "cast", "final", "get_args",
   "get_origin", "get_type_hints", "overload"].map (·, .function) ++
  [("TYPE_CHECKING", .constant (.bool false))]

/-- The functions among the names of the interface. -/
def interfaceFunctions : List String :=
  ["registry_for", "transform_source", "unmock_everything"]

/-- What a module that opts in may import from the interface. -/
def interfaceOffers : List (String × Offer) :=
  Interface.publicNames.map fun name =>
    (name,
      if name == "__version__" then .constant (.text Interface.version)
      else if interfaceFunctions.contains name then .function
      else .cls)

/-- The names of a library, if there is a library of that name. -/
def offers? (library : String) : Option (List (String × Offer)) :=
  if library = everywhere then some everywhereOffers
  else if library = "typing" then some typingOffers
  else if library = directives then some (knownDirectives.map (·, .other))
  else if library = Interface.packageName then some interfaceOffers
  else none

/-- What a library offers under a name. -/
def offer? (library name : String) : Option Offer :=
  (offers? library).bind fun l => (l.find? (·.1 == name)).map (·.2)

end Standin.Library
