/-
What a module that opts in may import.
-/

set_option autoImplicit false

namespace Standin.Interface

/-- The version of the interface. -/
def version : String := "0.4.0"

/-- The name of the package that offers the interface. -/
def packageName : String := "pytest_mockingbird"

/-- The names the package offers. -/
def publicNames : List String :=
  ["AlreadyMockedError", "Mockingbird", "MockingbirdError", "NoRestorationPointError",
   "NotMockedError", "Resettable", "UnknownBindingError", "__version__", "registry_for",
   "transform_source", "unmock_everything"]

/-- The classes of the package whose objects can be reset. -/
def resettableClasses : List String := ["Mockingbird", "Resettable"]

end Standin.Interface
