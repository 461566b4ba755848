import Typelib.Store.Basic

/-!
# The store in a directory

Every module has a file of its own, named after its stem, beside the file of the package
(`ModuleDirectory.initializer`).  A module is written to a new file that then takes the place of
the old one, so a failed write leaves that untouched.  The directory and the file of the package
are made again whenever they are missing.
-/

namespace Typelib

/-- A directory of generated modules. -/
structure ModuleDirectory where
  path : Path
  deriving DecidableEq

namespace ModuleDirectory

/-- The content of the file of the package. -/
def initializer : String :=
  "//! Generated type-library bindings. Modules in this directory are\n" ++
    "//! written by tlbgen and may be deleted at any time.\n"

/-- The file of a stem. -/
def fileOf (d : ModuleDirectory) (stem : String) : Path := d.path.child (stem ++ ".rs")

/-- The file of a module. -/
def modulePath (d : ModuleDirectory) (name : ModuleName) : Path := d.fileOf name.stem

/-- The file of the package. -/
def initializerPath (d : ModuleDirectory) : Path := d.fileOf ModuleName.packageStem

/-- Replaces a file of the directory by a text. -/
def writeText (d : ModuleDirectory) (files : Files) (p : Path) (text : String) :
    Except Fault Files :=
  files.replaceFile d.path p text.toUTF8

/-- Makes the directory and the file of the package if they are missing. -/
def prepare (d : ModuleDirectory) (files : Files) : Files × Option Fault :=
  match files.makeDirectories d.path with
  | (made, some fault) => (made, some fault)
  | (made, none) =>
    if made.isFile d.initializerPath then (made, none)
    else match d.writeText made d.initializerPath initializer with
      | .ok written => (written, none)
      | .error fault => (made, some fault)

/-- What the directory holds under a name. -/
def lookup (d : ModuleDirectory) (files : Files) (name : ModuleName) : Lookup :=
  let p := d.modulePath name
  match files.readText p with
  | .error .missing => .absent
  | .error fault => .invalid (.unreadable p fault)
  | .ok text =>
    match readSealed name text with
    | .ok body => .hit ⟨name, body, .file p⟩
    | .error e => .invalid (.unsealed (some p) e)

/-- Seals and stores a module, and looks it up again. -/
def commit (d : ModuleDirectory) (files : Files) (name : ModuleName) (body : String) :
    Except StoreError Module × Files :=
  match d.prepare files with
  | (made, some fault) => (.error (.writeFailed name fault), made)
  | (made, none) =>
    match d.writeText made (d.modulePath name) (sealText name body) with
    | .error fault => (.error (.writeFailed name fault), made)
    | .ok written => (Store.imported name (d.lookup written name), written)

/-- The module a file name stands for; the file of the package and hidden files stand for none. -/
def nameOfFile? (fileName : String) : Option ModuleName :=
  let stem := Path.stemOf fileName
  if Path.extension? fileName ≠ some "rs" then none
  else if stem = ModuleName.packageStem ∨ stem.toList.head? = some '.' then none
  else some ⟨stem⟩

/-- The names of the modules in the directory, in order; there are none without the directory. -/
def list (d : ModuleDirectory) (files : Files) : Except StoreError (List ModuleName) :=
  match files.entries d.path with
  | .ok entries => .ok (sortedNames (entries.filterMap fun entry => nameOfFile? entry.1))
  | .error .missing => .ok []
  | .error fault => .error (.inputOutput fault)

/-- Removes all modules that are listed and answers how many there are. -/
def clear (d : ModuleDirectory) (files : Files) : Except StoreError Nat × Files :=
  match d.list files with
  | .error e => (.error e, files)
  | .ok names =>
    match files.removeFiles (names.map d.modulePath) with
    | (removed, none) => (.ok names.length, removed)
    | (removed, some fault) => (.error (.inputOutput fault), removed)

/-- Opens the directory of the given path, making it if it is missing. -/
def openAt (p : Path) (files : Files) : Except StoreError ModuleDirectory × Files :=
  let d : ModuleDirectory := ⟨p⟩
  match d.prepare files with
  | (made, none) => (.ok d, made)
  | (made, some fault) => (.error (.openFailed p fault), made)

end ModuleDirectory

/-- The store in a directory. -/
def Store.directory (d : ModuleDirectory) : Store Files :=
  { description := d.path.text
    isPersistent := true
    location := some d.path
    load := d.lookup
    commit := d.commit
    list := d.list }

end Typelib
