import Typelib.Files.Path

/-!
# Settings

The settings say where generated modules go: into a directory or, without one, into memory.
-/

namespace Typelib

/-- Where generated modules go. -/
structure Settings where
  directory : Option Path
  deriving DecidableEq

namespace Settings

/-- The environment variable that names the directory. -/
def environmentVariable : String := "TLBGEN_GEN_DIR"

/-- The directory that is used when none is named. -/
def standard : Settings := ⟨some ⟨"./gen"⟩⟩

/-- Modules stay in memory. -/
def inMemory : Settings := ⟨none⟩

/-- Modules go into a directory. -/
def within (p : Path) : Settings := ⟨some p⟩

/-- The settings for a value of the environment variable; an empty one and a hyphen stand for
memory. -/
def ofVariable : Option String → Settings
  | none => standard
  | some value => if value = "" ∨ value = "-" then inMemory else within ⟨value⟩

end Settings

end Typelib
