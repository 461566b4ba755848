import Typelib.Ascending
import Typelib.Files.Path
import Typelib.Identity
import Typelib.Table

/-!
# The registry of classes and libraries

A `Registry` says to which library and version a class belongs, and where the file of a library is
for a version and a locale.  Versions of libraries and locales are keys in hexadecimal, the
version of a class is a text in decimal.  Registering a library stores its path under the key
forms that looking it up uses (`Registry.versionKey`, `Registry.localeKey`).
-/

namespace Typelib

/-- What is registered for a class. -/
structure ClassEntry where
  typelib : Option String
  version : Option String
  deriving DecidableEq

/-- The paths of a library by version key and locale key. -/
abbrev LibraryEntry := Table String (Table String Path)

/-- What is registered for classes and for libraries. -/
structure Registry where
  classes : Table Guid ClassEntry
  typelibs : Table Guid LibraryEntry

namespace Registry

def empty : Registry := ⟨.empty, .empty⟩

instance : Inhabited Registry := ⟨empty⟩

/-- The key of a version. -/
def versionKey (major minor : UInt16) : String :=
  Text.hexadecimal major.toNat ++ "." ++ Text.hexadecimal minor.toNat

/-- The key of a locale. -/
def localeKey (lcid : UInt32) : String := Text.hexadecimal lcid.toNat

/-- The library registered for a class. -/
def classTypelib (r : Registry) (clsid : Guid) : Option String :=
  (r.classes.get? clsid).bind ClassEntry.typelib

/-- The version registered for a class. -/
def classVersion (r : Registry) (clsid : Guid) : Option String :=
  (r.classes.get? clsid).bind ClassEntry.version

/-- The version keys of a library, in order. -/
def versions (r : Registry) (libid : Guid) : List String :=
  sortedTexts ((r.typelibs.get? libid).getD .empty).keys

/-- The path registered for a library under a version key and a locale key. -/
def path? (r : Registry) (libid : Guid) (version locale : String) : Option Path :=
  (r.typelibs.get? libid).bind fun versions =>
    (versions.get? version).bind fun locales => locales.get? locale

/-- Registers a class. -/
def withClass (r : Registry) (clsid typelib : Guid) (version : String) : Registry :=
  { r with classes := r.classes.insert clsid ⟨some typelib.braced, some version⟩ }

/-- Registers the file of a library. -/
def withTypelib (r : Registry) (i : Identity) (path : Path) : Registry :=
  let versions := (r.typelibs.get? i.libid).getD .empty
  let key := versionKey i.major i.minor
  let locales := ((versions.get? key).getD .empty).insert (localeKey i.lcid) path
  { r with typelibs := r.typelibs.insert i.libid (versions.insert key locales) }

end Registry

end Typelib
