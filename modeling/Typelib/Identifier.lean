/-!
# Identifiers of generated sources

A declared name may be any text.  `identifier` makes an identifier of it: characters other than
ASCII letters, digits and the underscore become underscores, a digit does not come first, and a
keyword gets an underscore at its end.  `IsIdentifier` says on its own which texts are left as
they are.
-/

namespace Typelib

/-- The keywords, reserved ones included. -/
def keywords : List String :=
  ["Self", "abstract", "as", "async", "await", "become", "box", "break", "const", "continue",
   "crate", "do", "dyn", "else", "enum", "extern", "false", "final", "fn", "for", "gen", "if",
   "impl", "in", "let", "loop", "macro", "match", "mod", "move", "mut", "override", "priv",
   "pub", "ref", "return", "self", "static", "struct", "super", "trait", "true", "try", "type",
   "typeof", "unsafe", "unsized", "use", "virtual", "where", "while", "yield"]

/-- ASCII letters and digits. -/
def isLetterOrDigit (c : Char) : Bool := c.isAlphanum

/-- ASCII letters, digits and the underscore. -/
def isIdentifierChar (c : Char) : Bool := isLetterOrDigit c || c = '_'

/-- A text with underscores in place of all other characters. -/
def withUnderscores (cs : List Char) : List Char :=
  cs.map fun c => if isIdentifierChar c then c else '_'

/-- A text that does not start with a digit and is not empty. -/
def withStart : List Char → List Char
  | [] => ['_']
  | c :: rest => if c.isDigit then '_' :: c :: rest else c :: rest

/-- A text that is not a keyword. -/
def withoutKeyword (s : String) : String := if s ∈ keywords then s ++ "_" else s

/-- The identifier made of a text. -/
def identifier (text : String) : String :=
  withoutKeyword (String.ofList (withStart (withUnderscores text.toList)))

/-- The texts that are identifiers already. -/
structure IsIdentifier (text : String) : Prop where
  chars : ∀ c ∈ text.toList, isIdentifierChar c
  start : ∃ c rest, text.toList = c :: rest ∧ c.isDigit = false
  notKeyword : text ∉ keywords

end Typelib
