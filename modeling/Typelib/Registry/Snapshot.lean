import Typelib.Files.Basic
import Typelib.Item.Decode
import Typelib.Json.Document
import Typelib.Registry.Basic

/-!
# Snapshots of the registry

A snapshot is a document with a record of two maps.  Of two entries with one key the later counts,
also if they spell the key of an identifier differently; the fields of records must not be
repeated, and unknown fields are skipped.
-/

namespace Typelib

/-- Reads an entry of a map. -/
def Document.entryOf? {κ α : Type} (readKey : String → Option κ) (read : Document → Option α)
    (member : String × Document) : Option (κ × α) :=
  match readKey member.1, read member.2 with
  | some key, some value => some (key, value)
  | _, _ => none

/-- Reads a map: every key and every value has to be readable. -/
def Document.table? {κ α : Type} [DecidableEq κ] (readKey : String → Option κ)
    (read : Document → Option α) (d : Document) : Option (Table κ α) :=
  d.members?.bind fun members => (members.mapM (entryOf? readKey read)).map Table.ofList

/-- A map that is empty when it is left out. -/
def Document.tableField? {κ α : Type} [DecidableEq κ] (readKey : String → Option κ)
    (read : Document → Option α) : Option Document → Option (Table κ α)
  | none => some .empty
  | some d => d.table? readKey read

/-- Reads a text. -/
def Document.text? : Document → Option String
  | .string s => s
  | _ => none

namespace ClassEntry

/-- A text that may be left out or null. -/
def textField? : Option Document → Option (Option String)
  | none | some .null => some none
  | some d => d.text?.map some

/-- Reads what is registered for a class. -/
def ofDocument? (d : Document) : Option ClassEntry :=
  match d.record? ["typelib", "version"] with
  | some [typelib, version] =>
    match textField? typelib, textField? version with
    | some t, some v => some ⟨t, v⟩
    | _, _ => none
  | _ => none

end ClassEntry

namespace Registry

/-- Reads the paths of a library. -/
def libraryEntry? : Document → Option LibraryEntry :=
  Document.table? some (Document.table? some fun d => d.text?.map Path.mk)

/-- Reads a registry from a document. -/
def ofDocument? (d : Document) : Option Registry :=
  match d.record? ["classes", "typelibs"] with
  | some [classes, typelibs] =>
    match Document.tableField? Guid.parse? ClassEntry.ofDocument? classes,
        Document.tableField? Guid.parse? libraryEntry? typelibs with
    | some cs, some ts => some ⟨cs, ts⟩
    | _, _ => none
  | _ => none

/-- Reads a registry from the text of a snapshot. -/
def parse? (text : String) : Option Registry := (Document.parse? text).bind ofDocument?

/-- Reads the snapshot in a file. -/
def load (files : Files) (p : Path) : Except Fault Registry :=
  match files.readText p with
  | .error fault => .error fault
  | .ok text =>
    match parse? text with
    | some registry => .ok registry
    | none => .error .undecodable

end Registry

end Typelib
