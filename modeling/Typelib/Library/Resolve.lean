import Typelib.Library.Designator

/-!
# Resolving designators

`resolve` turns a designator into a `Target` that can be loaded.  A relative path is looked for in
the base directory and then in the current one; if it is in neither, it is left to the loader's
search paths.  A library without a version means the highest one that is registered
(`highestVersion`).
-/

namespace Typelib

/-- What can be loaded. -/
inductive Target where
  | path (path : Path)
  | registered (library : Identity)
  | loaded (library : Library)

/-- The text of a target in reports. -/
def Target.text : Target → String
  | path p => p.text
  | registered i => i.text
  | loaded l => "loaded " ++ l.identity.text

/-- A resolved designator: the target, whether it is an absolute path, and the path that was asked
for. -/
structure Resolution where
  target : Target
  isAbsolute : Bool
  requested : Option Path

/-- Reads a version, `major.minor` in a base. -/
def parseVersion? (base : Nat) (text : String) : Option (UInt16 × UInt16) :=
  (Text.cut '.' (Text.trim text.toList)).bind fun (major, minor) =>
    match Text.word16? base major, Text.word16? base minor with
    | some M, some m => some (M, m)
    | _, _ => none

/-- The number by which versions are compared. -/
def versionRank (v : UInt16 × UInt16) : Nat := v.1.toNat * UInt16.size + v.2.toNat

/-- The higher one of two versions. -/
def higher (v w : UInt16 × UInt16) : UInt16 × UInt16 :=
  if versionRank v < versionRank w then w else v

/-- The highest version of a list. -/
def maxVersion? : List (UInt16 × UInt16) → Option (UInt16 × UInt16)
  | [] => none
  | v :: rest => some (rest.foldl higher v)

/-- The highest registered version of a library, of all or of those with a given major number. -/
def highestVersion (registry : Registry) (libid : Guid) (major : Option UInt16) :
    Except ResolutionError (UInt16 × UInt16) :=
  let keys := registry.versions libid
  let versions := keys.filterMap (parseVersion? 16)
  let wanted := versions.filter fun v => major.all fun M => v.1 = M
  if keys = [] then .error (.notRegistered (.library libid))
  else if versions = [] then .error (.malformedVersion (.library libid) (", ".intercalate keys))
  else match maxVersion? wanted with
    | some v => .ok v
    | none => .error (.notRegistered (.libraryMajor libid (major.getD 0)))

/-- The identity of the library of a class, in the neutral locale. -/
def resolveClass (registry : Registry) (clsid : Guid) : Except ResolutionError Identity :=
  match registry.classTypelib clsid with
  | none => .error (.notRegistered (.classTypelib clsid))
  | some typelib =>
    match Guid.parse? typelib with
    | none => .error (.notRegistered (.invalidTypelib clsid typelib))
    | some libid =>
      match registry.classVersion clsid with
      | none => .error (.notRegistered (.classVersion clsid))
      | some version =>
        match parseVersion? 10 version with
        | none => .error (.malformedVersion (.classVersion clsid) version)
        | some (major, minor) => .ok ⟨libid, major, minor, 0⟩

/-- The identity a library designator means; without a locale, the neutral one. -/
def resolveLibrary (registry : Registry) (libid : Guid) (major minor : Option UInt16)
    (lcid : Option UInt32) : Except ResolutionError Identity :=
  match major, minor with
  | some M, some m => .ok ⟨libid, M, m, lcid.getD 0⟩
  | none, some m =>
    .error (.ambiguous (libid.braced ++ " ?." ++ toString m.toNat) .minorAlone)
  | _, none =>
    match highestVersion registry libid major with
    | .ok (M, m) => .ok ⟨libid, M, m, lcid.getD 0⟩
    | .error e => .error e

/-- The path as it is found from the current directory. -/
def absolutize (files : Files) (p : Path) : Path :=
  if p.isAbsolute then p
  else match files.currentPath? with
    | some current => current.join p
    | none => p

/-- The first place where a relative path leads to something. -/
def foundPath? (files : Files) (base : Option Path) (p : Path) : Option Path :=
  let inBase := base.bind fun directory =>
    let candidate := directory.join p
    if files.pathExists candidate then some (absolutize files candidate) else none
  let inCurrent := files.currentPath?.bind fun current =>
    let candidate := current.join p
    if files.pathExists candidate then some candidate else none
  inBase.or inCurrent

/-- Resolves a relative path. -/
def resolveRelative (files : Files) (base : Option Path) (p : Path) : Resolution :=
  match foundPath? files base p with
  | some found => ⟨.path found, true, some p⟩
  | none => ⟨.path p, false, some p⟩

/-- Resolves a registered library. -/
def resolveRegistered (identity : Except ResolutionError Identity) :
    Except ResolutionError Resolution :=
  identity.map fun i => ⟨.registered i, false, none⟩

/-- Resolves a designator; relative paths are seen from `base` first. -/
def resolve (files : Files) (registry : Registry) (base : Option Path) :
    Designator → Except ResolutionError Resolution
  | .absolute p => .ok ⟨.path p, true, some p⟩
  | .relative p => .ok (resolveRelative files base p)
  | .coClass clsid => resolveRegistered (resolveClass registry clsid)
  | .library libid major minor lcid =>
    resolveRegistered (resolveLibrary registry libid major minor lcid)
  | .object libid major minor => resolveRegistered (.ok ⟨libid, major, minor, 0⟩)
  | .loaded l => .ok ⟨.loaded l, false, none⟩

end Typelib
