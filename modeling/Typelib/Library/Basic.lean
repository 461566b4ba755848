import Typelib.Descriptor
import Typelib.Files.Path
import Typelib.Naming

/-!
# Loaded libraries

A `Library` is a descriptor that has been loaded, with the path of the file it came from if it
came from one.
-/

namespace Typelib

/-- A loaded type library. -/
structure Library where
  descriptor : Descriptor
  source : Option Path

namespace Library

def identity (l : Library) : Identity := l.descriptor.identity

def declaredName (l : Library) : Option String := l.descriptor.declaredName

/-- The name of the library's friendly module, if it has one. -/
def friendlyName (l : Library) : Except NameCollision (Option ModuleName) :=
  Typelib.friendlyName l.declaredName

end Library

end Typelib
