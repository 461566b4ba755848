import Typelib.Identity

/-!
# References to types

A `TypeRef` is a type as an item of a library refers to it: an automation type, a type built from
another one, or a name declared in the same or in another library.  `TypeRef.libraries` lists the
other libraries it names.
-/

namespace Typelib

/-- The automation types. -/
inductive Builtin where
  | bool
  | i1
  | i2
  | i4
  | i8
  | ui1
  | ui2
  | ui4
  | ui8
  | int
  | uint
  | r4
  | r8
  | cy
  | date
  | bstr
  | variant
  | decimal
  | error
  | hresult
  | void
  | unknown
  | dispatch
  | lpstr
  | lpwstr
  deriving DecidableEq

namespace Builtin

/-- All automation types. -/
def all : List Builtin :=
  [bool, i1, i2, i4, i8, ui1, ui2, ui4, ui8, int, uint, r4, r8, cy, date, bstr, variant, decimal,
   error, hresult, void, unknown, dispatch, lpstr, lpwstr]

/-- The name of an automation type in a descriptor. -/
def keyword : Builtin → String
  | bool => "bool"
  | i1 => "i1"
  | i2 => "i2"
  | i4 => "i4"
  | i8 => "i8"
  | ui1 => "ui1"
  | ui2 => "ui2"
  | ui4 => "ui4"
  | ui8 => "ui8"
  | int => "int"
  | uint => "uint"
  | r4 => "r4"
  | r8 => "r8"
  | cy => "cy"
  | date => "date"
  | bstr => "bstr"
  | variant => "variant"
  | decimal => "decimal"
  | error => "error"
  | hresult => "hresult"
  | void => "void"
  | unknown => "unknown"
  | dispatch => "dispatch"
  | lpstr => "lpstr"
  | lpwstr => "lpwstr"

/-- The automation type of a name. -/
def ofKeyword? (name : String) : Option Builtin := all.find? fun b => b.keyword = name

/-- The name with a capital at its start, as labels show it. -/
def label (b : Builtin) : String :=
  match b.keyword.toList with
  | [] => ""
  | c :: rest => String.ofList (c.toUpper :: rest)

theorem ofKeyword?_keyword (b : Builtin) : ofKeyword? b.keyword = some b := by
  cases b <;> decide

end Builtin

/-- A type as an item refers to it. -/
inductive TypeRef where
  | builtin (type : Builtin)
  | pointer (target : TypeRef)
  | array (element : TypeRef) (length : UInt32)
  | safeArray (element : TypeRef)
  /-- A name declared in the same library, or a known symbol. -/
  | named (name : String)
  /-- A name declared in another library. -/
  | external (library : Identity) (name : String)
  /-- A type that descriptors cannot express. -/
  | unsupported (description : String)
  deriving DecidableEq

namespace TypeRef

/-- The type of nothing. -/
def void : TypeRef := builtin .void

/-- The libraries a type names, at any depth. -/
def libraries : TypeRef → List Identity
  | pointer target => target.libraries
  | array element _ => element.libraries
  | safeArray element => element.libraries
  | external library _ => [library]
  | builtin _ | named _ | unsupported _ => []

end TypeRef

end Typelib
