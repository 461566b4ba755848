import Typelib.Files.Path
import Typelib.Wrapper.Declare

/-!
# Wrapper modules

`Wrapper.ofItems` gives the structure of the wrapper of a library: its imports, a section of
declarations for every item in the order of declaration, and a placeholder for every name that is
used but that nothing declares.  The result depends on the library's identity, its items, the
known symbols and the path of the source alone.  `Wrapper.text` is the source text, and
`friendlyText` the source text of the friendly module that passes on a wrapper's names.
-/

namespace Typelib

/-- The structure of a wrapper module. -/
structure Wrapper where
  library : Identity
  source : Option Path
  imports : List Import
  sections : List (List Declaration)
  deriving DecidableEq

namespace Wrapper

/-- The names the declarations of some sections use. -/
def namesOf (sections : List (List Declaration)) : List NameRef :=
  sections.flatten.flatMap Declaration.names

/-- The section of a placeholder. -/
def placeholder (ident : String) : List Declaration :=
  [.comment true ("Placeholder for unresolved type \x60" ++ ident ++ "\x60."), .hollow ident]

/-- The identifiers that need a placeholder: missing ones that no item, known symbol or alias
has. -/
def placeholders (scope : Scope) (sections : List (List Declaration)) : List String :=
  let aliases := sections.flatten.filterMap Declaration.aliasName?
  (sortedTexts ((namesOf sections).filterMap NameRef.missing?)).filter fun ident =>
    ident ∉ scope.names.taken ∧ ident ∉ aliases

/-- The wrapper of a library. -/
def ofItems (library : Identity) (items : Items) (known : Symbols) (source : Option Path) :
    Wrapper :=
  let scope := Scope.of library items known
  let sections := scope.sections scope.names.taken items.values
  { library, source
    imports := known.imports ((namesOf sections).filterMap NameRef.symbol?)
    sections := sections ++ (placeholders scope sections).map placeholder }

/-- All declarations, in order. -/
def declarations (w : Wrapper) : List Declaration := w.sections.flatten

/-- The line of an import. -/
def importLine (i : Import) : String :=
  match i.names with
  | [name] => "use " ++ i.owner ++ "::" ++ name ++ ";"
  | names => "use " ++ i.owner ++ "::\x7b" ++ ", ".intercalate names ++ "\x7d;"

/-- The lines before the imports. -/
def headLines (w : Wrapper) : List String :=
  ["//! Wrapper module for type library " ++ w.library.text ++ ".",
   "//!",
   "//! Source: " ++ (w.source.map Path.text).getD "<no file>",
   "#![allow(non_camel_case_types, non_snake_case, non_upper_case_globals, dead_code)]",
   ""]

/-- The lines of the imports, and an empty one after them. -/
def importLines (w : Wrapper) : List String :=
  if w.imports = [] then [] else w.imports.map importLine ++ [""]

/-- The lines of a section, and an empty one after them. -/
def sectionLines (declarations : List Declaration) : List String :=
  declarations.flatMap Declaration.lines ++ [""]

/-- All lines. -/
def lines (w : Wrapper) : List String :=
  w.headLines ++ w.importLines ++ w.sections.flatMap sectionLines

/-- The lines one after the other, each with a line feed. -/
def ofLines (lines : List String) : List Char := lines.flatMap fun line => line.toList ++ ['\n']

/-- A text, backwards, that does not start with two line feeds. -/
def withoutBlankStart : List Char → List Char
  | '\n' :: '\n' :: rest => withoutBlankStart ('\n' :: rest)
  | cs => cs

/-- A text with one line feed in place of those at its end. -/
def withOneBreak (cs : List Char) : List Char := (withoutBlankStart cs.reverse).reverse

/-- The source text of a wrapper. -/
def text (w : Wrapper) : String := String.ofList (withOneBreak (ofLines w.lines))

end Wrapper

/-- The source text of a friendly module. -/
def friendlyText (wrapper : ModuleName) : String :=
  "//! Friendly alias for \x60" ++ wrapper.text ++ "\x60.\npub use super::" ++ wrapper.stem ++
    "::*;\n"

end Typelib
