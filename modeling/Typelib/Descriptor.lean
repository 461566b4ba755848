import Typelib.Item.Encode
import Typelib.Json.Document
import Typelib.Text.Blank

/-!
# Descriptors

A `Descriptor` is what the file of a type library holds: the identity, an optional name and
documentation, and the entries, which are kept as untyped data.  `Descriptor.items` reads the
entries in order.  An entry that is no object, has no name, or repeats a name makes the descriptor
corrupt; an entry whose declaration cannot be read stands for an unsupported item of its kind.
-/

namespace Typelib

/-- The contents of the file of a type library. -/
structure Descriptor where
  identity : Identity
  name : Option String
  doc : Option String
  entries : List Json

/-- What is wrong with the entries of a descriptor. -/
inductive EntryFault where
  | notObject (index : Nat)
  | unnamed (index : Nat)
  | repeated (name : String)
  deriving DecidableEq

/-- A descriptor whose entries do not form a library. -/
structure CorruptDescriptor where
  libid : Guid
  fault : EntryFault
  deriving DecidableEq

/-- What an entry lacks, in words. -/
def EntryFault.message : EntryFault → String
  | notObject index => s!"entry {index} is not an object"
  | unnamed index => s!"entry {index} has no name"
  | repeated name => "duplicate item '" ++ name ++ "'"

/-- The message names the library. -/
def CorruptDescriptor.message (e : CorruptDescriptor) : String :=
  "corrupt descriptor for " ++ e.libid.braced ++ ": " ++ e.fault.message

namespace Descriptor

/-- The descriptor of a library without name and entries. -/
def bare (identity : Identity) : Descriptor := ⟨identity, none, none, []⟩

/-- The descriptor with one more entry at its end. -/
def withEntry (d : Descriptor) (entry : Json) : Descriptor :=
  { d with entries := d.entries ++ [entry] }

/-- The descriptor with one more item at its end. -/
def withItem (d : Descriptor) (item : Item) : Descriptor := d.withEntry item.toJson

/-- The declared name without blanks at its ends, unless nothing is left. -/
def declaredName (d : Descriptor) : Option String :=
  (d.name.map Text.trimmed).filter fun name => name ≠ ""

/-! ## Reading -/

/-- The fields of a descriptor, in order. -/
def fieldNames : List String := ["libid", "major", "minor", "lcid", "name", "doc", "items"]

/-- Reads a descriptor from the values of its fields. -/
def ofFields? : List (Option Json) → Option Descriptor
  | [libid, major, minor, lcid, name, doc, items] => do
    let identity : Identity :=
      ⟨← Json.required Guid.ofJson? libid, ← Json.required Json.word16? major,
        ← Json.required Json.word16? minor, ← Json.withDefault 0 Json.word32? lcid⟩
    some ⟨identity, ← Json.optional Json.string? name, ← Json.optional Json.string? doc,
      ← Json.withDefault [] Json.array? items⟩
  | _ => none

/-- Reads a descriptor from data. -/
def ofJson? (j : Json) : Option Descriptor := (j.record? fieldNames).bind ofFields?

/-- Reads a descriptor from the text of its file, in which no known field may be repeated. -/
def parse? (text : String) : Option Descriptor :=
  (Document.parse? text).bind fun d =>
    (d.record? fieldNames).bind fun fields => (Document.fieldValues? 1 fields).bind ofFields?

/-- What is read as an identity and nothing else is a bare descriptor. -/
theorem parse?_eq_bare {text : String} {identity : Identity}
    (h : (parse? text).map (fun d => (d.identity, d.name, d.doc, d.entries.isEmpty)) =
      some (identity, none, none, true)) :
    parse? text = some (bare identity) := by
  obtain ⟨⟨declared, name, doc, entries⟩, hread, hfields⟩ := Option.map_eq_some_iff.mp h
  simp only [Prod.mk.injEq, List.isEmpty_iff] at hfields
  obtain ⟨rfl, rfl, rfl, rfl⟩ := hfields
  exact hread

/-- The descriptor with all its fields. -/
def toJson (d : Descriptor) : Json :=
  .object [("doc", .ofOption .string d.doc), ("items", .array d.entries),
    ("lcid", .nat d.identity.lcid.toNat), ("libid", d.identity.libid.toJson),
    ("major", .nat d.identity.major.toNat), ("minor", .nat d.identity.minor.toNat),
    ("name", .ofOption .string d.name)]

/-! ## Items -/

/-- The kind an entry names, for the stub of an unsupported item. -/
def constructOf (entry : Json) : String :=
  ((entry.member? "kind").bind Json.string?).getD "<missing kind>"

/-- The item of an entry with a name; a declaration that cannot be read becomes a stub. -/
def itemOf (name : String) (entry : Json) : Item :=
  match Item.ofJson? entry with
  | some item => if item.isSupported then item else .unsupported name (constructOf entry)
  | none => .unsupported name (constructOf entry)

/-- The name of an entry. -/
def entryName? (index : Nat) (entry : Json) : Except EntryFault String :=
  match entry with
  | .object _ =>
    match (entry.member? "name").bind Json.string? with
    | some name => .ok name
    | none => .error (.unnamed index)
  | _ => .error (.notObject index)

/-- Reads entries, the first of which has the given index, after the items read so far. -/
def itemsFrom (index : Nat) (items : Items) : List Json → Except EntryFault Items
  | [] => .ok items
  | entry :: rest =>
    match entryName? index entry with
    | .error fault => .error fault
    | .ok name =>
      if items.contains name then .error (.repeated name)
      else itemsFrom (index + 1) (items.insert name (itemOf name entry)) rest

/-- The items of a library. -/
def items (d : Descriptor) : Except CorruptDescriptor Items :=
  (itemsFrom 0 .empty d.entries).mapError fun fault => ⟨d.identity.libid, fault⟩

end Descriptor

end Typelib
