import Typelib.Library.Resolve

/-!
# Loading libraries

`Loader.load` loads a target: a library that is loaded already, a path, or a registered library.
A relative path is looked for in the search paths.  A registered library is looked up for its
locale and then for the neutral one, and the file has to declare the identifier and the version it
is registered for.
-/

namespace Typelib

/-- The status code of a library that is missing. -/
def codeCannotLoad : Int32 := Int32.ofInt (-0x7ffd63b6)

/-- The status code of a file that holds no library. -/
def codeUnsupportedFormat : Int32 := Int32.ofInt (-0x7ffd7fe7)

/-- The status code of a file that must not be read. -/
def codeAccessDenied : Int32 := Int32.ofInt (-0x7ff8fffb)

/-- Why a file holds no library. -/
inductive FormatFault where
  | unreadable (fault : Fault)
  /-- The file declares another library than the one it is registered for. -/
  | declares (declared : Identity) (libid : Guid) (major minor : UInt16)
  | stated (text : String)
  deriving DecidableEq

/-- The fault in words. -/
def FormatFault.message : FormatFault → String
  | unreadable fault => fault.message
  | declares declared libid major minor =>
    "descriptor declares " ++ declared.text ++ " but is registered as " ++ libid.braced ++ " " ++
      toString major.toNat ++ "." ++ toString minor.toNat
  | stated text => text

/-- Why a library cannot be loaded. -/
inductive LoadError where
  | notFound (reference : String) (code : Int32)
  | invalidFormat (path : Path) (fault : FormatFault) (code : Int32)
  | accessDenied (path : Path) (code : Int32)
  deriving DecidableEq

namespace LoadError

/-- The library is missing. -/
def missing (reference : String) : LoadError := notFound reference codeCannotLoad

/-- The file holds no library. -/
def malformed (path : Path) (fault : FormatFault) : LoadError :=
  invalidFormat path fault codeUnsupportedFormat

/-- The file must not be read. -/
def denied (path : Path) : LoadError := accessDenied path codeAccessDenied

/-- The status code of a failure. -/
def code : LoadError → Int32
  | notFound _ code => code
  | invalidFormat _ _ code => code
  | accessDenied _ code => code

/-- A status code, as eight hexadecimal digits of its two's complement. -/
def codeText (code : Int32) : String :=
  "0x" ++ String.ofList (Text.fixedHex 8 code.toUInt32.toNat)

/-- The message ends with the status code. -/
def message : LoadError → String
  | notFound reference code =>
    "type library not found: " ++ reference ++ " (" ++ codeText code ++ ")"
  | invalidFormat path fault code =>
    "invalid type library format in " ++ path.text ++ ": " ++ fault.message ++ " (" ++
      codeText code ++ ")"
  | accessDenied path code => "access denied reading " ++ path.text ++ " (" ++ codeText code ++ ")"

end LoadError

/-- Reads the descriptor in a file. -/
def readDescriptor (files : Files) (p : Path) : Except LoadError Library :=
  match files.readText p with
  | .error .missing => .error (.missing p.text)
  | .error fault => .error (.malformed p (.unreadable fault))
  | .ok text =>
    match Descriptor.parse? text with
    | some descriptor => .ok ⟨descriptor, some p⟩
    | none => .error (.malformed p (.unreadable .undecodable))

/-- Where libraries are looked up. -/
structure Loader where
  registry : Registry
  searchPaths : List Path

namespace Loader

/-- The file a path means: an absolute path itself, a relative one the first file of that path
below a search path. -/
def fileOf (loader : Loader) (files : Files) (p : Path) : Option Path :=
  if p.isAbsolute then some p
  else (loader.searchPaths.map fun directory => directory.join p).find? files.isFile

/-- Loads the library in the file a path means. -/
def loadPath (loader : Loader) (files : Files) (p : Path) : Except LoadError Library :=
  match loader.fileOf files p with
  | some found => readDescriptor files found
  | none => .error (.missing p.text)

/-- The path registered for a library: for its locale, or else for the neutral one. -/
def registeredPath? (loader : Loader) (i : Identity) : Option Path :=
  let version := Registry.versionKey i.major i.minor
  (loader.registry.path? i.libid version (Registry.localeKey i.lcid)).or
    (loader.registry.path? i.libid version "0")

/-- Loads a registered library. -/
def loadRegistered (loader : Loader) (files : Files) (i : Identity) : Except LoadError Library :=
  match loader.registeredPath? i with
  | none => .error (.missing i.text)
  | some p =>
    match loader.loadPath files p with
    | .error e => .error e
    | .ok library =>
      let declared := library.identity
      if declared.libid = i.libid ∧ declared.major = i.major ∧ declared.minor = i.minor then
        .ok library
      else
        .error (.malformed (library.source.getD p) (.declares declared i.libid i.major i.minor))

/-- Loads a target. -/
def load (loader : Loader) (files : Files) : Target → Except LoadError Library
  | .path p => loader.loadPath files p
  | .registered i => loader.loadRegistered files i
  | .loaded library => .ok library

end Loader

end Typelib
