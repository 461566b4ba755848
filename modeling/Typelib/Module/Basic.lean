import Typelib.Files.Path
import Typelib.Json.Basic
import Typelib.Module.Name

/-!
# Generated modules

A generated `Module` is a source text under a name, with what it is stored in.
-/

namespace Typelib

/-- What a module is stored in. -/
inductive Backing where
  | memory
  | file (path : Path)
  deriving DecidableEq

/-- A generated module. -/
structure Module where
  name : ModuleName
  text : String
  backing : Backing
  deriving DecidableEq

/-- The backing in reports. -/
def Backing.toJson : Backing → Json
  | memory => .string "InMemory"
  | file path => .object [("OnDisk", .string path.text)]

namespace Module

/-- Whether the module is kept in memory only. -/
def isInMemory (m : Module) : Bool := m.backing = .memory

/-- The size of the source, in bytes. -/
def size (m : Module) : Nat := m.text.utf8ByteSize

/-- The summary of a module in reports. -/
def summary (m : Module) : Json :=
  .object [("name", .string m.name.text), ("backing", m.backing.toJson),
    ("source_bytes", .nat m.size)]

end Module

end Typelib
