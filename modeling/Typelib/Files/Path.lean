import Typelib.Text.Segments

/-!
# Paths

A `Path` is the text of a path; slashes separate its components.  Joining a path to a directory
keeps an absolute path as it is.  `Path.ancestors` lists the directories above a path, nearest
first, and `Path.stemOf` and `Path.extension?` take a file name apart at its last dot.
-/

namespace Typelib

/-- The text of a path. -/
structure Path where
  text : String
  deriving DecidableEq

namespace Path

/-- Whether the path starts at the root. -/
def isAbsolute (p : Path) : Bool := p.text.toList.head? = some '/'

/-- Whether the path can only name a directory. -/
def endsWithSlash (p : Path) : Bool := p.text.toList.getLast? = some '/'

/-- The path `p`, seen from the directory `base`. -/
def join (base p : Path) : Path :=
  if p.isAbsolute then p
  else if base.text = "" ∨ base.endsWithSlash then ⟨base.text ++ p.text⟩
  else ⟨base.text ++ "/" ++ p.text⟩

/-- The path of a file in the directory `base`. -/
def child (base : Path) (name : String) : Path := base.join ⟨name⟩

/-- The pieces between slashes that are not empty. -/
def components (p : Path) : List String :=
  ((Text.fields '/' p.text.toList).filter (· ≠ [])).map String.ofList

/-- The components that count: a dot counts only at the start of a relative path. -/
def steps (p : Path) : List String :=
  match p.components, p.isAbsolute with
  | "." :: rest, false => "." :: rest.filter (· ≠ ".")
  | components, _ => components.filter (· ≠ ".")

/-- The path of some components. -/
def ofSteps (absolute : Bool) (steps : List String) : Path :=
  ⟨(if absolute then "/" else "") ++ "/".intercalate steps⟩

/-- The directories above a path, nearest first; a relative path ends at the empty one. -/
def ancestors (p : Path) : List Path :=
  ((List.range p.steps.length).map fun n => ofSteps p.isAbsolute (p.steps.take n)).reverse

/-! ## File names -/

/-- What stands before and after the last dot of a file name, unless the name starts there. -/
def atLastDot (name : String) : Option (String × String) :=
  let backwards := name.toList.reverse
  let ending := backwards.takeWhile (· ≠ '.')
  match backwards.dropWhile (· ≠ '.') with
  | _ :: c :: rest =>
    if name = ".." then none
    else some (String.ofList (c :: rest).reverse, String.ofList ending.reverse)
  | _ => none

/-- The extension of a file name. -/
def extension? (name : String) : Option String := (atLastDot name).map Prod.snd

/-- A file name without its extension. -/
def stemOf (name : String) : String := ((atLastDot name).map Prod.fst).getD name

end Path

end Typelib
