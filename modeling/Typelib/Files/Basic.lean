import Typelib.Files.Path
import Typelib.Table

/-!
# Files

`Files` is a tree of files and directories together with the current directory.  A `Location` is a
place in the tree: the names from the root down.  A path leads to a location step by step
(`Files.locate`); every step but the last has to come to a directory that is there.  The current
directory may have been removed, and then no relative path leads anywhere.
-/

namespace Typelib

/-- A place in the tree: the names from the root down. -/
abbrev Location := List String

/-- The location one name further on; a dot stays, and two dots go up. -/
def Location.step (loc : Location) (name : String) : Location :=
  if name = "." then loc else if name = ".." then loc.dropLast else loc ++ [name]

/-- What can be at a location. -/
inductive Node where
  | directory
  | file (content : ByteArray)

instance : DecidableEq Node := fun
  | .directory, .directory => isTrue rfl
  | .directory, .file _ => isFalse nofun
  | .file _, .directory => isFalse nofun
  | .file a, .file b =>
    match ByteArray.decEq a b with
    | isTrue same => isTrue (congrArg Node.file same)
    | isFalse different => isFalse fun same => different (Node.file.inj same)

/-- Why an operation on files is refused. -/
inductive Fault where
  | missing
  | notDirectory
  | isDirectory
  | present
  | nameTooLong
  | malformed
  | notText
  | undecodable
  deriving DecidableEq

/-- The fault in words. -/
def Fault.message : Fault → String
  | missing => "no such file or directory"
  | notDirectory => "not a directory"
  | isDirectory => "is a directory"
  | present => "already there"
  | nameTooLong => "name too long"
  | malformed => "malformed path"
  | notText => "not valid UTF-8"
  | undecodable => "not in the expected notation"

/-- A tree of files and the current directory. -/
structure Files where
  nodes : Table Location Node
  current : Option Location

namespace Files

/-- What is at a location; the root is always there. -/
def node? (fs : Files) (loc : Location) : Option Node :=
  if loc = [] then some .directory else fs.nodes.get? loc

/-! ## Following paths -/

/-- The greatest length of a name, in bytes. -/
def nameLimit : Nat := 255

/-- The greatest length of a path, in bytes. -/
def pathLimit : Nat := 4095

/-- The location of a name in a directory. -/
def enter (fs : Files) (loc : Location) (name : String) : Except Fault Location :=
  match fs.node? loc with
  | none => .error .missing
  | some (.file _) => .error .notDirectory
  | some .directory =>
    if nameLimit < name.utf8ByteSize then .error .nameTooLong else .ok (loc.step name)

/-- Follows names, all of which have to be there except, perhaps, the last. -/
def follow (fs : Files) (loc : Location) : List String → Except Fault Location
  | [] => .ok loc
  | name :: rest =>
    match fs.enter loc name with
    | .error fault => .error fault
    | .ok next =>
      match rest, fs.node? next with
      | [], _ => .ok next
      | _, none => .error .missing
      | _, some _ => fs.follow next rest

/-- The location a path leads to, whether or not anything is there. -/
def locate (fs : Files) (p : Path) : Except Fault Location :=
  if p.text = "" then .error .missing
  else if '\x00' ∈ p.text.toList then .error .malformed
  else if pathLimit < p.text.utf8ByteSize then .error .nameTooLong
  else if p.isAbsolute then fs.follow [] p.components
  else match fs.current with
    | some start => fs.follow start p.components
    | none => .error .missing

/-- What a path leads to. -/
def find (fs : Files) (p : Path) : Except Fault (Location × Node) :=
  match fs.locate p with
  | .error fault => .error fault
  | .ok loc =>
    match fs.node? loc with
    | none => .error .missing
    | some (.file content) =>
      if p.endsWithSlash then .error .notDirectory else .ok (loc, .file content)
    | some .directory => .ok (loc, .directory)

/-- Whether a path leads to anything. -/
def pathExists (fs : Files) (p : Path) : Bool :=
  match fs.find p with
  | .ok _ => true
  | .error _ => false

/-- Whether a path leads to a file. -/
def isFile (fs : Files) (p : Path) : Bool :=
  match fs.find p with
  | .ok (_, .file _) => true
  | _ => false

/-- Whether a path leads to a directory. -/
def isDirectory (fs : Files) (p : Path) : Bool :=
  match fs.find p with
  | .ok (_, .directory) => true
  | _ => false

/-- The absolute path of the current directory. -/
def currentPath? (fs : Files) : Option Path := fs.current.map (Path.ofSteps true)

/-! ## Reading -/

/-- The bytes of a file. -/
def readBytes (fs : Files) (p : Path) : Except Fault ByteArray :=
  match fs.find p with
  | .error fault => .error fault
  | .ok (_, .directory) => .error .isDirectory
  | .ok (_, .file content) => .ok content

/-- The text of a file. -/
def readText (fs : Files) (p : Path) : Except Fault String :=
  match fs.readBytes p with
  | .error fault => .error fault
  | .ok content =>
    match String.fromUTF8? content with
    | some text => .ok text
    | none => .error .notText

/-- The name of a location in a directory, if it lies directly in it. -/
def nameIn (directory loc : Location) : Option String :=
  if loc.dropLast = directory then loc.getLast? else none

/-- The names in a directory and what they lead to, in order of first creation. -/
def entries (fs : Files) (p : Path) : Except Fault (List (String × Node)) :=
  match fs.find p with
  | .error fault => .error fault
  | .ok (_, .file _) => .error .notDirectory
  | .ok (directory, .directory) =>
    .ok (fs.nodes.entries.filterMap fun entry =>
      (nameIn directory entry.1).map fun name => (name, entry.2))

/-! ## Changing -/

/-- Puts a node at a location. -/
def put (fs : Files) (loc : Location) (node : Node) : Files :=
  { fs with nodes := fs.nodes.insert loc node }

/-- Writes a file, in place of an earlier one. -/
def writeFile (fs : Files) (p : Path) (content : ByteArray) : Except Fault Files :=
  match fs.locate p with
  | .error fault => .error fault
  | .ok loc =>
    match fs.node? loc with
    | some .directory => .error .isDirectory
    | _ => if p.endsWithSlash then .error .isDirectory else .ok (fs.put loc (.file content))

/-- Makes a directory. -/
def makeDirectory (fs : Files) (p : Path) : Except Fault Files :=
  match fs.locate p with
  | .error fault => .error fault
  | .ok loc =>
    match fs.node? loc with
    | some _ => .error .present
    | none => .ok (fs.put loc .directory)

/-- Makes a directory; when it fails, it is no failure if the directory is there. -/
def settle (fs : Files) (p : Path) : Except Fault Files :=
  match fs.makeDirectory p with
  | .ok made => .ok made
  | .error fault => if fs.isDirectory p then .ok fs else .error fault

/-- Makes a directory after those above it, nearest first, that are missing. -/
def makeBelow (fs : Files) (p : Path) (above : List Path) : Files × Option Fault :=
  if p.text = "" then (fs, none)
  else match fs.settle p with
    | .ok made => (made, none)
    | .error fault =>
      if fault = .missing then
        match above with
        | [] => (fs, some fault)
        | q :: rest =>
          match makeBelow fs q rest with
          | (made, some fault) => (made, some fault)
          | (made, none) =>
            match made.settle p with
            | .ok done => (done, none)
            | .error fault => (made, some fault)
      else (fs, some fault)

/-- Makes a directory and those above it.  Directories made before a failure stay. -/
def makeDirectories (fs : Files) (p : Path) : Files × Option Fault := fs.makeBelow p p.ancestors

/-- Replaces a file as a whole.  The new content is first written to a new file in `directory`,
so that directory has to be there even if the file lies elsewhere. -/
def replaceFile (fs : Files) (directory p : Path) (content : ByteArray) : Except Fault Files :=
  match fs.current, directory.isAbsolute with
  | none, false => .error .missing
  | current, _ =>
    let base := (current.map (Path.ofSteps true)).getD ⟨"/"⟩
    match fs.find (base.join directory) with
    | .error fault => .error fault
    | .ok (_, .file _) => .error .notDirectory
    | .ok (_, .directory) => fs.writeFile p content

/-- Removes a file. -/
def removeFile (fs : Files) (p : Path) : Except Fault Files :=
  match fs.find p with
  | .error fault => .error fault
  | .ok (_, .directory) => .error .isDirectory
  | .ok (loc, .file _) => .ok { fs with nodes := fs.nodes.erase loc }

/-- Removes files, one after the other; a file that is missing is passed over. -/
def removeFiles (fs : Files) : List Path → Files × Option Fault
  | [] => (fs, none)
  | p :: rest =>
    match fs.removeFile p with
    | .ok removed => removed.removeFiles rest
    | .error .missing => fs.removeFiles rest
    | .error fault => (fs, some fault)

/-- Removes what a path leads to, and everything below it.  The root stays. -/
def removeTree (fs : Files) (p : Path) : Except Fault Files :=
  match fs.find p with
  | .error fault => .error fault
  | .ok (loc, _) =>
    .ok { nodes := fs.nodes.filterKeys fun key => !loc.isPrefixOf key
          current := fs.current.filter fun location => !loc.isPrefixOf location }

/-- Changes the current directory. -/
def changeDirectory (fs : Files) (p : Path) : Except Fault Files :=
  match fs.find p with
  | .error fault => .error fault
  | .ok (_, .file _) => .error .notDirectory
  | .ok (loc, .directory) => .ok { fs with current := some loc }

/-- The tree with the given directories, the last of which is the current one. -/
def withDirectories (directories : List Location) : Files :=
  { nodes := .ofList (directories.map fun loc => (loc, .directory))
    current := directories.getLast? }

end Files

end Typelib
