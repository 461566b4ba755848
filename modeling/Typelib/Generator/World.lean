import Typelib.Generator.Request
import Typelib.Store.Directory
import Typelib.Store.Memory

/-!
# The world of a generator

In the `World` libraries are read from files, and modules are stored in directories or in one of
several stores in memory, which are numbered.  A configured directory that cannot be opened is
replaced by a store in memory (`World.openStore`).
-/

namespace Typelib

/-- Files, and the stores in memory in the order they were opened. -/
structure World where
  files : Files
  memories : List SealedTable

namespace World

/-- The content of a store in memory. -/
def sealed (w : World) (number : Nat) : SealedTable := w.memories.getD number .empty

/-- The store in memory of a number. -/
def memory (number : Nat) : Store World :=
  Store.memory.within (fun w => w.sealed number)
    fun w table => { w with memories := w.memories.set number table }

/-- Opens a further store in memory, and answers its number. -/
def openMemory (w : World) : Nat × World :=
  (w.memories.length, { w with memories := w.memories ++ [.empty] })

/-- The store in a directory. -/
def directory (d : ModuleDirectory) : Store World :=
  (Store.directory d).within World.files fun w files => { w with files }

/-- The store in a configured directory; without one, or if it cannot be opened, the store in
memory of the given number. -/
def openStore (number : Nat) (configured : Option Path) (w : World) : Store World × World :=
  match configured with
  | none => (memory number, w)
  | some p =>
    match ModuleDirectory.openAt p w.files with
    | (.ok d, files) => (directory d, { w with files })
    | (.error _, files) => (memory number, { w with files })

end World

/-- The environment of a generator that reads descriptors with a loader. -/
def Environment.ofLoader (loader : Loader) (known : Symbols) (memory : Nat) : Environment World :=
  { files := World.files
    registry := loader.registry
    load := fun w target => loader.load w.files target
    items := fun library => library.descriptor.items
    known
    openStore := World.openStore memory }

end Typelib
