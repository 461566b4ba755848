import Typelib.Text.Segments

/-!
# Names of generated modules

All generated modules live in one package, `gen`.  The last segment of a module's name is its
stem, which is also the stem of its file.
-/

namespace Typelib

/-- The name of a module in the package of generated modules. -/
structure ModuleName where
  member : String
  deriving DecidableEq

namespace ModuleName

/-- The package of generated modules. -/
def package : String := "gen"

/-- The stem of the package's own file. -/
def packageStem : String := "mod"

/-- The qualified name. -/
def text (n : ModuleName) : String := package ++ "::" ++ n.member

/-- The last segment of the qualified name. -/
def stem (n : ModuleName) : String :=
  match Text.afterLastPair ':' n.text.toList with
  | some segment => String.ofList segment
  | none => n.text

/-- Names are ordered by their text. -/
def below (a b : ModuleName) : Bool := decide (a.text < b.text)

end ModuleName

end Typelib
