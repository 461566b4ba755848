import Typelib.Item.Basic
import Typelib.Json.Basic

/-!
# Reading items

`Item.ofJson?` reads an item from the data of a descriptor, `TypeRef.ofJson?` a type.  There are
two notations.  The strict one is for a type that stands by itself; inside an item the notation is
free: a tag without content may carry an empty object, and the fields of an array or an external
type may be written by position.
-/

namespace Typelib

/-- How freely types are written. -/
inductive Strictness where
  | strict
  | free
  deriving DecidableEq

open Json

/-- Reads an identifier. -/
def Guid.ofJson? (j : Json) : Option Guid := j.string?.bind Guid.parse?

/-- Reads an identity from its four fields. -/
def Identity.ofJson? (j : Json) : Option Identity :=
  match j.record? ["libid", "major", "minor", "lcid"] with
  | some [libid, major, minor, lcid] => do
    some ⟨← required Guid.ofJson? libid, ← required word16? major, ← required word16? minor,
      ← required word32? lcid⟩
  | _ => none

/-- Whether a tag that has no content is written with nothing that counts. -/
def isBare (s : Strictness) : Option Json → Bool
  | none => true
  | some null => true
  | some (object []) => s = .free
  | _ => false

/-- Reads a tag without content. -/
def tag? {α : Type} (s : Strictness) (ofName? : String → Option α) (j : Json) : Option α :=
  match j.variant? with
  | some (name, payload) => if isBare s payload then ofName? name else none
  | none => none

/-- The fields of a variant; only in the free notation may they be written by position. -/
def fields? (s : Strictness) (names : List String) (payload : Json) :
    Option (List (Option Json)) :=
  match payload, s with
  | array _, .strict => none
  | _, _ => payload.record? names

theorem sizeOf_lt_of_fields {s : Strictness} {names : List String} {payload field : Json}
    {found : List (Option Json)} (h : fields? s names payload = some found)
    (mem : some field ∈ found) : sizeOf field < sizeOf payload := by
  unfold fields? at h
  split at h
  · cases h
  · exact sizeOf_lt_of_record h mem

/-- Reads a type. -/
def TypeRef.ofJson? (s : Strictness) (j : Json) : Option TypeRef :=
  match _outer : j.variant? with
  | some ("builtin", some payload) => (tag? s Builtin.ofKeyword? payload).map builtin
  | some ("pointer", some payload) => (TypeRef.ofJson? s payload).map pointer
  | some ("safe_array", some payload) => (TypeRef.ofJson? s payload).map safeArray
  | some ("array", some payload) =>
    match _inner : fields? s ["element", "length"] payload with
    | some [some element, some length] =>
      match TypeRef.ofJson? s element, length.word32? with
      | some type, some n => some (array type n)
      | _, _ => none
    | _ => none
  | some ("named", some payload) => payload.string?.map named
  | some ("external", some payload) =>
    match fields? s ["library", "name"] payload with
    | some [some library, some name] =>
      match Identity.ofJson? library, name.string? with
      | some i, some n => some (external i n)
      | _, _ => none
    | _ => none
  | some ("unsupported", some payload) => payload.string?.map unsupported
  | _ => none
termination_by sizeOf j
decreasing_by
  · exact sizeOf_lt_of_variant _outer
  · exact sizeOf_lt_of_variant _outer
  · exact Nat.lt_trans (sizeOf_lt_of_fields _inner (by simp)) (sizeOf_lt_of_variant _outer)

namespace InvokeKind

/-- The name of a kind in a descriptor. -/
def keyword : InvokeKind → String
  | func => "func"
  | propGet => "prop_get"
  | propPut => "prop_put"
  | propPutRef => "prop_put_ref"

def ofKeyword? (name : String) : Option InvokeKind :=
  [func, propGet, propPut, propPutRef].find? fun k => k.keyword = name

end InvokeKind

namespace Direction

/-- The name of a direction in a descriptor. -/
def keyword : Direction → String
  | into => "in"
  | out => "out"
  | inOut => "in_out"

def ofKeyword? (name : String) : Option Direction :=
  [into, out, inOut].find? fun d => d.keyword = name

end Direction

/-- Reads a direction. -/
def Direction.ofJson? (s : Strictness) : Json → Option Direction := tag? s ofKeyword?

/-- Reads a parameter; it is passed in and required unless it says otherwise. -/
def Param.ofJson? (j : Json) : Option Param :=
  match j.record? ["name", "type", "direction", "optional"] with
  | some [name, type, direction, optional] => do
    some ⟨← required string? name, ← required (TypeRef.ofJson? .free) type,
      ← withDefault .into (Direction.ofJson? .free) direction, ← withDefault false bool? optional⟩
  | _ => none

/-- Reads a method; it is a function without result unless it says otherwise. -/
def Method.ofJson? (j : Json) : Option Method :=
  match j.record? ["name", "kind", "memid", "params", "returns"] with
  | some [name, kind, memid, params, returns] => do
    some ⟨← required string? name, ← withDefault .func (tag? .free InvokeKind.ofKeyword?) kind,
      ← optional int32? memid, ← listField Param.ofJson? params,
      ← withDefault .void (TypeRef.ofJson? .free) returns⟩
  | _ => none

def Field.ofJson? (j : Json) : Option Field :=
  match j.record? ["name", "type"] with
  | some [name, type] => do
    some ⟨← required string? name, ← required (TypeRef.ofJson? .free) type⟩
  | _ => none

def Implemented.ofJson? (j : Json) : Option Implemented :=
  match j.record? ["interface", "default", "source"] with
  | some [interface, isDefault, isSource] => do
    some ⟨← required (TypeRef.ofJson? .free) interface, ← withDefault false bool? isDefault,
      ← withDefault false bool? isSource⟩
  | _ => none

/-- Reads the value of a constant. -/
def ConstValue.ofJson? (j : Json) : Option ConstValue :=
  match j.variant? with
  | some ("int", some payload) => payload.int64?.map int
  | some ("float", some payload) => payload.double?.map float
  | some ("str", some payload) => payload.string?.map str
  | some ("bool", some payload) => payload.bool?.map bool
  | _ => none

def Constant.ofJson? (j : Json) : Option Constant :=
  match j.record? ["name", "value"] with
  | some [name, value] => do
    some ⟨← required string? name, ← required ConstValue.ofJson? value⟩
  | _ => none

/-- Reads a member of an enumeration, a pair of a name and a value. -/
def enumMember? : Json → Option (String × Int64)
  | array [name, value] => do some (← name.string?, ← value.int64?)
  | _ => none

namespace Item

/-- Reads an item of a kind from what stands beside its tag. -/
def ofContent? (kind : String) (content : Json) : Option Item :=
  match kind with
  | "interface" =>
    match content.record? ["name", "iid", "base", "methods"] with
    | some [name, iid, base, methods] => do
      some (interface (← required string? name) (← optional Guid.ofJson? iid)
        (← optional (TypeRef.ofJson? .free) base) (← listField Method.ofJson? methods))
    | _ => none
  | "disp_interface" =>
    match content.record? ["name", "iid", "methods"] with
    | some [name, iid, methods] => do
      some (dispInterface (← required string? name) (← optional Guid.ofJson? iid)
        (← listField Method.ofJson? methods))
    | _ => none
  | "co_class" =>
    match content.record? ["name", "clsid", "implemented_interfaces"] with
    | some [name, clsid, implemented] => do
      some (coClass (← required string? name) (← optional Guid.ofJson? clsid)
        (← listField Implemented.ofJson? implemented))
    | _ => none
  | "enum" =>
    match content.record? ["name", "members"] with
    | some [name, members] => do
      some (enumeration (← required string? name) (← listField enumMember? members))
    | _ => none
  | "struct" =>
    match content.record? ["name", "fields"] with
    | some [name, fields] => do
      some (struct (← required string? name) (← listField Field.ofJson? fields))
    | _ => none
  | "alias" =>
    match content.record? ["name", "target_type"] with
    | some [name, target] => do
      some (typeAlias (← required string? name) (← required (TypeRef.ofJson? .free) target))
    | _ => none
  | "module" =>
    match content.record? ["name", "constants"] with
    | some [name, values] => do
      some (constants (← required string? name) (← listField Constant.ofJson? values))
    | _ => none
  | "opaque" =>
    match content.record? ["name", "construct"] with
    | some [name, construct] => do
      some (unsupported (← required string? name) (← required string? construct))
    | _ => none
  | _ => none

/-- Reads an item: an object with a tag among its members, or an array that starts with one. -/
def ofJson? (j : Json) : Option Item :=
  match j with
  | array (tag :: rest) => tag.string?.bind fun kind => ofContent? kind (array rest)
  | _ => (required string? (j.member? "kind")).bind fun kind => ofContent? kind j

end Item

end Typelib
