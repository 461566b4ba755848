import Typelib.CommandLine.Reach

/-!
# The program

`main` takes over the parts of the file system that a command line looks at, carries the command
line out on them, and writes back what has changed.  Everything else about a command is decided by
`CommandLine.run`.
-/

namespace Typelib.CommandLine

/-- The text of a location for the system. -/
def systemPath (loc : Location) : String := "/" ++ "/".intercalate loc

/-- Takes over what the system has at a location. -/
def observe (fs : Files) (loc : Location) : IO Files := do
  let .ok place ← (IO.FS.realPath (systemPath loc)).toBaseIO | return fs
  if ← place.isDir then return fs.put loc .directory
  let .ok content ← (IO.FS.readBinFile place).toBaseIO | return fs
  return fs.put loc (.file content)

/-- Takes over what lies along some names, seen from a location; answers where they end. -/
def observeAlong (fs : Files) (loc : Location) : List String → IO (Files × Location)
  | [] => return (fs, loc)
  | name :: rest => do
    let next := loc.step name
    observeAlong (← observe fs next) next rest

/-- Takes over what lies along a path. -/
def observePath (fs : Files) (p : Path) : IO (Files × Location) :=
  observeAlong fs (if p.isAbsolute then [] else fs.current.getD []) p.components

/-- Takes over a directory and what lies directly in it. -/
def observeDirectory (fs : Files) (p : Path) : IO Files := do
  let (fs, loc) ← observePath fs p
  let .ok place ← (IO.FS.realPath (systemPath loc)).toBaseIO | return fs
  let .ok entries ← place.readDir.toBaseIO | return fs
  entries.foldlM (fun fs entry => observe fs (loc.step entry.fileName)) fs

/-- The current directory and those above it. -/
def observeCurrent : IO Files := do
  let nowhere : Files := Files.withDirectories []
  let .ok place ← IO.currentDir.toBaseIO | return nowhere
  let (fs, loc) ← observePath nowhere ⟨place.toString⟩
  return { fs with current := some loc }

/-- Takes over all that a command looks at. -/
def observeFor (environmentValue : Option String) (command : Command) : IO Files := do
  let fs ← observeCurrent
  let fs ← command.registry?.toList.foldlM (fun fs p => Prod.fst <$> observePath fs p) fs
  let registry := match command.registry?.map (Registry.load fs) with
    | some (.ok registry) => registry
    | _ => .empty
  let fs ← (command.files registry).foldlM (fun fs p => Prod.fst <$> observePath fs p) fs
  (command.directory environmentValue).toList.foldlM observeDirectory fs

/-- Writes a file under another name first, so that it is never there in part. -/
def replaceAtOnce (loc : Location) (content : ByteArray) : IO Unit := do
  let temporary := systemPath loc ++ ".new"
  IO.FS.writeBinFile temporary content
  IO.FS.rename temporary (systemPath loc)

/-- Makes the system agree with a tree that has changed. -/
def writeBack (before after : Files) : IO Unit := do
  for (loc, node) in after.nodes.entries do
    if before.nodes.get? loc ≠ some node then
      match node with
      | .directory => IO.FS.createDir (systemPath loc)
      | .file content => replaceAtOnce loc content
  for loc in before.nodes.keys do
    if !after.nodes.contains loc then IO.FS.removeFile (systemPath loc)

/-- What is printed for a command line that cannot be understood. -/
def usage : String :=
  "Usage: tlbgen generate DESIGNATOR [--gen-dir DIR | --in-memory] [--print]\n" ++
    "                [--registry FILE] [--search-path DIR]...\n" ++
    "       tlbgen names DESIGNATOR [--registry FILE] [--search-path DIR]...\n" ++
    "       tlbgen clean --gen-dir DIR"

/-- Prints an answer. -/
def printAnswer : Answer → IO Unit
  | .ok output => IO.print output
  | .error .usage => IO.eprintln usage
  | .error e => IO.eprintln ("Error: " ++ e.message)

/-- Carries out a command line, and answers the exit code. -/
def execute (arguments : List String) : IO UInt32 := do
  let environmentValue ← IO.getEnv Settings.environmentVariable
  let before ← match Command.parse? arguments with
    | some command => observeFor environmentValue command
    | none => pure (Files.withDirectories [])
  let (answer, after) := run before environmentValue arguments
  writeBack before after
  printAnswer answer
  return (exitCode answer).toUInt32

end Typelib.CommandLine

/-- The exit code of a command line. -/
def main (arguments : List String) : IO UInt32 := Typelib.CommandLine.execute arguments
