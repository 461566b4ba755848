import Typelib.LocalNames
import Typelib.Naming
import Typelib.Source.TypeExpr

/-!
# Types as a wrapper writes them

A `Scope` is what the meaning of a type reference depends on: the library itself, its items, the
known symbols and the identifiers of the items.  A name means a known symbol first, then an item
of the library, and else a name that nothing declares (`Scope.refer`).  `Scope.typeExpr`,
`Scope.paramType` and `Scope.baseVtable` give the types of values, of parameters and of the base
of a method structure.
-/

namespace Typelib

/-- What the meaning of a type reference depends on. -/
structure Scope where
  own : Identity
  items : Items
  known : Symbols
  names : LocalNames

namespace Scope

/-- The scope of a library's wrapper. -/
def of (own : Identity) (items : Items) (known : Symbols) : Scope :=
  ⟨own, items, known, .assign items known⟩

variable (scope : Scope)

/-- What a bare name means. -/
def refer (name : String) : NameRef :=
  if scope.known.contains name then .symbol name
  else match scope.names.idents.get? name with
    | some ident => .item ident
    | none => .missing (identifier name)

/-- The type a bare name means. -/
def nameType (name : String) : TypeExpr := .name (scope.refer name)

/-- An automation type: a primitive of the same width, or a type of the runtime support. -/
def builtinType : Builtin → TypeExpr
  | .void => .unit
  | .i1 => .primitive .i8
  | .i2 => .primitive .i16
  | .i4 | .int | .error => .primitive .i32
  | .i8 => .primitive .i64
  | .ui1 => .primitive .u8
  | .ui2 => .primitive .u16
  | .ui4 | .uint => .primitive .u32
  | .ui8 => .primitive .u64
  | .r4 => .primitive .f32
  | .r8 => .primitive .f64
  | .bool => scope.nameType "VARIANT_BOOL"
  | .cy => scope.nameType "CY"
  | .date => scope.nameType "DATE"
  | .bstr => scope.nameType "BSTR"
  | .variant => scope.nameType "VARIANT"
  | .decimal => scope.nameType "DECIMAL"
  | .hresult => scope.nameType "HRESULT"
  | .unknown => scope.nameType "IUnknown"
  | .dispatch => scope.nameType "IDispatch"
  | .lpstr => scope.nameType "PSTR"
  | .lpwstr => scope.nameType "PWSTR"

/-- A name in another library; the library itself is meant by its own identity. -/
def externalType (library : Identity) (name : String) : TypeExpr :=
  if library = scope.own then scope.nameType name
  else .sibling library.wrapperStem (identifier name)

/-- A reference without a type. -/
def voidPointer : TypeExpr := .pointer (scope.nameType "c_void")

/-- The type of a value. -/
def typeExpr : TypeRef → TypeExpr
  | .builtin type => scope.builtinType type
  | .pointer (.builtin .void) => scope.voidPointer
  | .pointer target => .pointer (typeExpr target)
  | .array element length => .array (typeExpr element) length
  | .safeArray _ => .pointer (scope.nameType "SAFEARRAY")
  | .named name => scope.nameType name
  | .external library name => scope.externalType library name
  | .unsupported _ => scope.voidPointer

/-- The type of a parameter: what goes out is passed by reference. -/
def paramType (type : TypeRef) : Direction → TypeExpr
  | .into => scope.typeExpr type
  | .out | .inOut => .pointer (scope.typeExpr type)

/-- The method structure of an interface named in the library.  A dispatch interface stands for
the standard one, and any other item for the simplest one. -/
def vtableRef (interface : String) : NameRef :=
  let vtable := interface ++ "_Vtbl"
  if scope.known.contains vtable then .symbol vtable
  else match scope.names.vtables.get? interface with
    | some ident => .item ident
    | none => match scope.items.get? interface with
      | some (.dispInterface ..) => scope.refer "IDispatch_Vtbl"
      | some _ => scope.refer "IUnknown_Vtbl"
      | none => .missing (identifier interface ++ "_Vtbl")

/-- The method structure of the base of an interface. -/
def baseVtable : Option TypeRef → TypeExpr
  | some (.builtin .dispatch) => scope.nameType "IDispatch_Vtbl"
  | some (.named name) => .name (scope.vtableRef name)
  | some (.external library name) =>
    if library = scope.own then .name (scope.vtableRef name)
    else .sibling library.wrapperStem (identifier name ++ "_Vtbl")
  | _ => scope.nameType "IUnknown_Vtbl"

end Scope

end Typelib
