import Typelib.CommandLine.Options
import Typelib.Generator.World
import Typelib.Json.Printer
import Typelib.Registry.Snapshot
import Typelib.Settings

/-!
# Running commands

`run` carries out a command line on the files and answers the exit code, the output and the error.
A command that fails changes the files only as far as it got.
-/

namespace Typelib.CommandLine

/-- Why a command line fails. -/
inductive CommandError where
  | usage
  | registry (path : Path) (fault : Fault)
  | designator (error : ResolutionError)
  | request (error : RequestError)
  | clean (path : Path) (error : StoreError)
  deriving DecidableEq

namespace CommandError

/-- Usage, a designator that leads nowhere and a library that cannot be used give 2, naming and
storing 1, and all else 3. -/
def exitCode : CommandError → Nat
  | usage => 2
  | registry .. => 3
  | designator _ => 2
  | request (.resolution _) | request (.load _) | request (.corrupt _) => 2
  | request (.collision _) | request (.mismatch ..) | request (.persistence _) => 1
  | clean .. => 3

/-- What the command was doing, and the cause as far as it lies in the program. -/
def brief : CommandError → String
  | usage => "usage"
  | registry path _ => "failed to read registry '" ++ path.text ++ "'"
  | designator e => e.message
  | request e => e.brief
  | clean path _ => "failed to clean '" ++ path.text ++ "'"

/-- The full message. -/
def message : CommandError → String
  | registry path fault => (registry path fault).brief ++ ": " ++ fault.message
  | request e => e.message
  | clean path e => (clean path e).brief ++ ": " ++ e.message
  | e => e.brief

end CommandError

/-- What a command answers. -/
abbrev Answer := Except CommandError String

/-- A report over several lines. -/
def report (j : Json) : String := j.pretty ++ "\n"

/-- The loader of the lookup options. -/
def loaderOf (files : Files) (options : LookupOptions) : Except CommandError Loader :=
  match options.registry with
  | none => .ok ⟨.empty, options.searchPaths⟩
  | some p =>
    match Registry.load files p with
    | .ok registry => .ok ⟨registry, options.searchPaths⟩
    | .error fault => .error (.registry p fault)

/-- The settings of a `generate` command. -/
def settingsOf (environmentValue : Option String) (directory : Option Path) (inMemory : Bool) :
    Settings :=
  if inMemory then .inMemory
  else match directory with
    | some p => .within p
    | none => .ofVariable environmentValue

/-- The environment of a command; there is one store in memory. -/
def environment (loader : Loader) : Environment World := .ofLoader loader .standard 0

/-- The report on a module. -/
def moduleReport (m : Module) (location : Option Path) (stats : Stats) : Json :=
  .object [("module", m.summary),
    ("gen_dir", .ofOption (fun p => .string p.text) location), ("stats", stats.toJson)]

/-- Generates the module of a library, and prints it or reports on it. -/
def runGenerate (files : Files) (designator : String) (settings : Settings)
    (options : LookupOptions) (print : Bool) : Answer × Files :=
  match loaderOf files options with
  | .error e => (.error e, files)
  | .ok loader =>
    let base := files.currentPath?
    match Designator.parse files base designator with
    | .error e => (.error (.designator e), files)
    | .ok reference =>
      let env := environment loader
      let g := Generator.start ⟨files, [.empty]⟩ (.configured settings.directory)
      match g.request env reference base with
      | (.error e, g) => (.error (.request e), g.world.files)
      | (.ok m, g) =>
        if print then (.ok m.text, g.world.files)
        else
          let (store, g) := g.openStore env
          (.ok (report (moduleReport m store.location g.stats)), g.world.files)

/-- Reports the names of a library's modules. -/
def runNames (files : Files) (designator : String) (options : LookupOptions) : Answer :=
  match loaderOf files options with
  | .error e => .error e
  | .ok loader =>
    let base := files.currentPath?
    match Designator.parse files base designator with
    | .error e => .error (.designator e)
    | .ok reference =>
      match (environment loader).names ⟨files, [.empty]⟩ reference base with
      | .error e => .error (.request e)
      | .ok names => .ok (report names.toJson)

/-- Removes the modules in a directory, and reports how many there were. -/
def runClean (files : Files) (directory : Path) : Answer × Files :=
  let removed (n : Nat) := report (.object [("removed", .nat n)])
  if files.isDirectory directory then
    match ModuleDirectory.openAt directory files with
    | (.error e, made) => (.error (.clean directory e), made)
    | (.ok d, made) =>
      match d.clear made with
      | (.error e, cleared) => (.error (.clean directory e), cleared)
      | (.ok n, cleared) => (.ok (removed n), cleared)
  else (.ok (removed 0), files)

/-- Carries out a command line, given the value of the environment variable. -/
def run (files : Files) (environmentValue : Option String) (arguments : List String) :
    Answer × Files :=
  match Command.parse? arguments with
  | none => (.error .usage, files)
  | some (.generate designator directory inMemory options print) =>
    runGenerate files designator (settingsOf environmentValue directory inMemory) options print
  | some (.names designator options) => (runNames files designator options, files)
  | some (.clean directory) => runClean files directory

/-- The exit code of an answer. -/
def exitCode : Answer → Nat
  | .ok _ => 0
  | .error e => e.exitCode

end Typelib.CommandLine
