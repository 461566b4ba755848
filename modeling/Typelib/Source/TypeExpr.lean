import Typelib.Item.TypeRef

/-!
# Types in generated sources

A `TypeExpr` is the structure of a type as a wrapper writes it, and `TypeExpr.text` its text.  A
bare name keeps where it comes from (`NameRef`): a known symbol that has to be imported, an item
of the library, or a name that nothing declares.  So the imports and the placeholders of a wrapper
can be read off its types (`TypeExpr.names`).
-/

namespace Typelib

/-- A bare name and where it comes from. -/
inductive NameRef where
  | symbol (name : String)
  | item (ident : String)
  | missing (ident : String)
  deriving DecidableEq

namespace NameRef

/-- The name as it is written. -/
def ident : NameRef → String
  | symbol name => name
  | item ident => ident
  | missing ident => ident

/-- The known symbol that has to be imported. -/
def symbol? : NameRef → Option String
  | symbol name => some name
  | _ => none

/-- The name that nothing declares. -/
def missing? : NameRef → Option String
  | missing ident => some ident
  | _ => none

end NameRef

/-- The primitive numbers. -/
inductive Primitive where
  | i8
  | i16
  | i32
  | i64
  | u8
  | u16
  | u32
  | u64
  | f32
  | f64
  deriving DecidableEq

def Primitive.text : Primitive → String
  | i8 => "i8"
  | i16 => "i16"
  | i32 => "i32"
  | i64 => "i64"
  | u8 => "u8"
  | u16 => "u16"
  | u32 => "u32"
  | u64 => "u64"
  | f32 => "f32"
  | f64 => "f64"

/-- A type in a generated source. -/
inductive TypeExpr where
  | unit
  | primitive (type : Primitive)
  | name (ref : NameRef)
  /-- A name in the module of the given stem beside this one. -/
  | sibling (stem : String) (ident : String)
  | pointer (target : TypeExpr)
  | array (element : TypeExpr) (length : UInt32)
  deriving DecidableEq

namespace TypeExpr

/-- The text of a type. -/
def text : TypeExpr → String
  | unit => "()"
  | primitive type => type.text
  | name ref => ref.ident
  | sibling stem ident => "super::" ++ stem ++ "::" ++ ident
  | pointer target => "*mut " ++ target.text
  | array element length => "[" ++ element.text ++ "; " ++ toString length.toNat ++ "]"

/-- The bare names in a type. -/
def names : TypeExpr → List NameRef
  | name ref => [ref]
  | pointer target => target.names
  | array element _ => element.names
  | unit | primitive _ | sibling .. => []

end TypeExpr

end Typelib
