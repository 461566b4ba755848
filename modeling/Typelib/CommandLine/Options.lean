import Typelib.Files.Path
import Typelib.Text.Segments

/-!
# Command line options

A command line starts with the name of a command.  Options come in any order between the
arguments: `--name value` or `--name=value` for one with a value, `--name` for a switch.  After
`--` everything is an argument.  A lone hyphen is an argument or a value, any other text that
starts with one is an option.  Options other than search paths are given at most once, and paths
are not empty.
-/

namespace Typelib

/-- Where libraries are looked up. -/
structure LookupOptions where
  registry : Option Path
  searchPaths : List Path
  deriving DecidableEq

/-- What a command line asks for. -/
inductive Command where
  | generate (designator : String) (directory : Option Path) (inMemory : Bool)
      (lookup : LookupOptions) (print : Bool)
  | names (designator : String) (lookup : LookupOptions)
  | clean (directory : Path)
  deriving DecidableEq

/-- What a command accepts. -/
structure Accepted where
  valued : List String
  switches : List String

/-- The parts of a command line, each in order. -/
structure Arguments where
  plain : List String
  values : List (String × String)
  switches : List String

namespace Arguments

def addPlain (a : Arguments) (text : String) : Arguments := { a with plain := text :: a.plain }

def addValue (a : Arguments) (name value : String) : Arguments :=
  { a with values := (name, value) :: a.values }

def addSwitch (a : Arguments) (name : String) : Arguments :=
  { a with switches := name :: a.switches }

/-- Whether a text has to be an option. -/
def isOption (text : String) : Bool := text.toList.head? = some '-' && text ≠ "-"

/-- The name of a long option and its value, if that is written with it. -/
def optionOf? (text : String) : Option (String × Option String) :=
  (Text.afterStart ['-', '-'] text.toList).map fun rest =>
    match Text.cut '=' rest with
    | some (name, value) => (String.ofList name, some (String.ofList value))
    | none => (String.ofList rest, none)

/-- Takes a command line apart. -/
def collect? (accepted : Accepted) : List String → Option Arguments
  | [] => some ⟨[], [], []⟩
  | "--" :: rest => some ⟨rest, [], []⟩
  | text :: rest =>
    if isOption text then
      match optionOf? text with
      | none => none
      | some (name, some value) =>
        if name ∈ accepted.valued then (collect? accepted rest).map (·.addValue name value)
        else none
      | some (name, none) =>
        if name ∈ accepted.switches then (collect? accepted rest).map (·.addSwitch name)
        else if name ∈ accepted.valued then
          match rest with
          | value :: rest =>
            if isOption value then none else (collect? accepted rest).map (·.addValue name value)
          | [] => none
        else none
    else (collect? accepted rest).map (·.addPlain text)

/-- The paths given for an option, which must not be empty. -/
def paths? (a : Arguments) (name : String) : Option (List Path) :=
  (a.values.filter fun v => v.1 = name).mapM fun v =>
    if v.2 = "" then none else some (Path.mk v.2)

/-- The path of an option that is given at most once. -/
def path? (a : Arguments) (name : String) : Option (Option Path) :=
  match a.paths? name with
  | some [] => some none
  | some [p] => some (some p)
  | _ => none

/-- Whether a switch is given; it must not be given twice. -/
def switch? (a : Arguments) (name : String) : Option Bool :=
  match a.switches.filter (· = name) with
  | [] => some false
  | [_] => some true
  | _ => none

/-- The only plain argument. -/
def single? (a : Arguments) : Option String :=
  match a.plain with
  | [text] => some text
  | _ => none

/-- Where libraries are looked up. -/
def lookup? (a : Arguments) : Option LookupOptions := do
  some ⟨← a.path? "registry", ← a.paths? "search-path"⟩

end Arguments

namespace Command

/-- The command a command line stands for. -/
def parse? : List String → Option Command
  | "generate" :: rest => do
    let a ← Arguments.collect?
      ⟨["gen-dir", "registry", "search-path"], ["in-memory", "print"]⟩ rest
    let directory ← a.path? "gen-dir"
    let inMemory ← a.switch? "in-memory"
    if inMemory && directory.isSome then none
    else some (generate (← a.single?) directory inMemory (← a.lookup?) (← a.switch? "print"))
  | "names" :: rest => do
    let a ← Arguments.collect? ⟨["registry", "search-path"], []⟩ rest
    some (names (← a.single?) (← a.lookup?))
  | "clean" :: rest => do
    let a ← Arguments.collect? ⟨["gen-dir"], []⟩ rest
    match a.plain, ← a.path? "gen-dir" with
    | [], some directory => some (clean directory)
    | _, _ => none
  | _ => none

end Command

end Typelib
