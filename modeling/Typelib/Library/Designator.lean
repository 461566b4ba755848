import Typelib.Files.Basic
import Typelib.Library.Basic
import Typelib.Registry.Basic

/-!
# Designators

A `Designator` is one of the ways to ask for a library: a path, a class, a library with or without
a version, an object that says where it was registered, or a library that is loaded already.  In
a text (`Designator.parse`) a class is written `clsid:` and its identifier, a library as its
identifier alone or followed by version and locale, and anything else is a path.  A text that
reads as one of the former must not name a file as well.
-/

namespace Typelib

/-- A way to ask for a library. -/
inductive Designator where
  | absolute (path : Path)
  | relative (path : Path)
  | coClass (clsid : Guid)
  | library (libid : Guid) (major minor : Option UInt16) (lcid : Option UInt32)
  | object (libid : Guid) (major minor : UInt16)
  | loaded (library : Library)

/-- An entry of the registry that a designator depends on. -/
inductive RegistryKey where
  | classTypelib (clsid : Guid)
  | classVersion (clsid : Guid)
  | library (libid : Guid)
  | libraryMajor (libid : Guid) (major : UInt16)
  /-- A class whose library is given by a text that is no identifier. -/
  | invalidTypelib (clsid : Guid) (value : String)
  deriving DecidableEq

/-- The key as the registry writes it. -/
def RegistryKey.text : RegistryKey → String
  | classTypelib clsid => "CLSID\\" ++ clsid.braced ++ "\\TypeLib"
  | classVersion clsid => "CLSID\\" ++ clsid.braced ++ "\\Version"
  | library libid => "TypeLib\\" ++ libid.braced
  | libraryMajor libid major =>
    "TypeLib\\" ++ libid.braced ++ "\\" ++ Text.hexadecimal major.toNat ++ ".*"
  | invalidTypelib clsid value =>
    "CLSID\\" ++ clsid.braced ++ "\\TypeLib (invalid LIBID '" ++ value ++ "')"

/-- Why a designator could mean more than one library. -/
inductive Ambiguity where
  | minorAlone
  | invalidClass
  | invalidFields
  | namesFile
  deriving DecidableEq

/-- The reason in words. -/
def Ambiguity.text : Ambiguity → String
  | minorAlone => "minor version given without a major version"
  | invalidClass => "'clsid:' prefix without a valid GUID"
  | invalidFields => "expected GUID,major,minor[,lcid]"
  | namesFile => "names both a registry entry and an existing file"

/-- Why a designator leads to no library. -/
inductive ResolutionError where
  | notRegistered (key : RegistryKey)
  | ambiguous (designator : String) (reason : Ambiguity)
  | malformedVersion (key : RegistryKey) (value : String)
  deriving DecidableEq

/-- The message names the key or the designator. -/
def ResolutionError.message : ResolutionError → String
  | notRegistered key => "not registered: " ++ key.text
  | ambiguous designator reason => "ambiguous designator '" ++ designator ++ "': " ++ reason.text
  | malformedVersion key value => "malformed version '" ++ value ++ "' under " ++ key.text

namespace Designator

/-- The designator of exactly one library. -/
def exact (i : Identity) : Designator := library i.libid (some i.major) (some i.minor) (some i.lcid)

/-- The designator of a path. -/
def ofPath (p : Path) : Designator := if p.isAbsolute then absolute p else relative p

/-- Reads version and locale after an identifier. -/
def ofFields? (libid : Guid) : List (List Char) → Option Designator
  | [] => some (library libid none none none)
  | [major, minor] =>
    match Text.word16? 10 major, Text.word16? 10 minor with
    | some M, some m => some (library libid (some M) (some m) none)
    | _, _ => none
  | [major, minor, lcid] =>
    match Text.word16? 10 major, Text.word16? 10 minor, Text.word32? 10 lcid with
    | some M, some m, some l => some (library libid (some M) (some m) (some l))
    | _, _, _ => none
  | _ => none

/-- Reads a text that designates a class or a library; any other text gives nothing. -/
def ofText (text : String) : Except ResolutionError (Option Designator) :=
  let cs := Text.trim text.toList
  match Text.afterStart "clsid:".toList cs with
  | some rest =>
    match Guid.parse? (String.ofList rest) with
    | some clsid => .ok (some (coClass clsid))
    | none => .error (.ambiguous text .invalidClass)
  | none =>
    match (Text.fields ',' cs).map Text.trim with
    | [] => .ok none
    | first :: rest =>
      match Guid.parse? (String.ofList first) with
      | none => .ok none
      | some libid =>
        match ofFields? libid rest with
        | some designator => .ok (some designator)
        | none => .error (.ambiguous text .invalidFields)

/-- Whether a text names something in the current directory or in a base directory. -/
def namesFile (files : Files) (base : Option Path) (text : String) : Bool :=
  files.pathExists ⟨text⟩ || base.any fun directory => files.pathExists (directory.join ⟨text⟩)

/-- Reads a designator. -/
def parse (files : Files) (base : Option Path) (text : String) :
    Except ResolutionError Designator :=
  match ofText text with
  | .error e => .error e
  | .ok none => .ok (ofPath ⟨text⟩)
  | .ok (some designator) =>
    if namesFile files base text then .error (.ambiguous text .namesFile) else .ok designator

end Designator

end Typelib
