import Typelib.Generator.Basic

/-!
# Locating libraries and naming their modules

`Environment.locate` resolves a designator and loads the library, and says under which path its
source is known.  `Environment.names` reports the names that the modules of a library have or will
have; it changes nothing.
-/

namespace Typelib

universe u

variable {σ : Type u}

/-- A library that has been located: the library and the path its source is known under. -/
structure Located where
  library : Library
  source : Option Path

/-- The names of the modules of a library. -/
structure LibraryNames where
  identity : Identity
  declaredName : Option String
  wrapper : ModuleName
  friendly : Option ModuleName
  source : Option Path
  deriving DecidableEq

namespace Environment

variable (env : Environment σ)

/-- The path a library's source is known under: an absolute one that was asked for, or the one
the library was loaded from, or the one that was asked for. -/
def sourcePath (resolution : Resolution) (library : Library) : Option Path :=
  match resolution.target, resolution.isAbsolute with
  | .path p, true => some p
  | _, _ => library.source.or resolution.requested

/-- Resolves and loads a library. -/
def locate (world : σ) (designator : Designator) (base : Option Path) :
    Except RequestError Located :=
  match resolve (env.files world) env.registry base designator with
  | .error e => .error (.resolution e)
  | .ok resolution =>
    match env.load world resolution.target with
    | .error e => .error (.load e)
    | .ok library => .ok ⟨library, sourcePath resolution library⟩

/-- The friendly name of a library. -/
def friendlyName (library : Library) : Except RequestError (Option ModuleName) :=
  match library.friendlyName with
  | .error e => .error (.collision e)
  | .ok name => .ok name

/-- The names of a library's modules. -/
def names (world : σ) (designator : Designator) (base : Option Path) :
    Except RequestError LibraryNames :=
  match env.locate world designator base with
  | .error e => .error e
  | .ok located =>
    match friendlyName located.library with
    | .error e => .error e
    | .ok friendly =>
      let identity := located.library.identity
      .ok ⟨identity, located.library.declaredName, identity.wrapperName, friendly, located.source⟩

end Environment

/-- The names in reports. -/
def LibraryNames.toJson (n : LibraryNames) : Json :=
  .object [("identity", .object [("libid", n.identity.libid.toJson),
      ("major", .nat n.identity.major.toNat), ("minor", .nat n.identity.minor.toNat),
      ("lcid", .nat n.identity.lcid.toNat)]),
    ("declared_name", .ofOption .string n.declaredName),
    ("wrapper", .string n.wrapper.text),
    ("friendly", .ofOption (fun m => .string m.text) n.friendly),
    ("source_path", .ofOption (fun p => .string p.text) n.source)]

end Typelib
