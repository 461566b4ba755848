import Typelib.CommandLine.Run

/-!
# What a command line looks at

A command reads few files of all there are.  `Command.files` lists the paths it may read once its
registry is known, and `Command.directory` is the directory of modules that it may list or change;
so a program needs to take over these parts of the file system only.
-/

namespace Typelib

/-- The paths of all registered libraries. -/
def Registry.paths (r : Registry) : List Path :=
  r.typelibs.values.flatMap fun versions => versions.values.flatMap Table.values

namespace Command

/-- The designator of a command and where it is looked up. -/
def lookup? : Command → Option (String × LookupOptions)
  | generate designator _ _ lookup _ => some (designator, lookup)
  | names designator lookup => some (designator, lookup)
  | clean _ => none

/-- The file of a command's registry. -/
def registry? (c : Command) : Option Path := c.lookup?.bind fun asked => asked.2.registry

/-- The paths of libraries a command may read: the one that is asked for and the registered ones,
by themselves and below every search path. -/
def files (c : Command) (registry : Registry) : List Path :=
  match c.lookup? with
  | none => []
  | some (designator, lookup) =>
    let libraries := ⟨designator⟩ :: registry.paths
    libraries ++ lookup.searchPaths.flatMap fun directory => libraries.map directory.join

/-- The directory of modules of a command, given the value of the environment variable. -/
def directory (environmentValue : Option String) : Command → Option Path
  | generate _ directory inMemory _ _ =>
    (CommandLine.settingsOf environmentValue directory inMemory).directory
  | names .. => none
  | clean directory => some directory

end Command

end Typelib
