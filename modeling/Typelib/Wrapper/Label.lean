import Typelib.Item.TypeRef
import Typelib.Text.Quoted

/-!
# Labels of interfaces

A coclass lists the labels of its interfaces: the name of a named type, the name of an automation
type, and for any other type a description of its structure.
-/

namespace Typelib

/-- The description of an identity. -/
def Identity.description (i : Identity) : String :=
  "LibraryIdentity \x7b libid: Guid(" ++ i.libid.lower ++ "), major: " ++ toString i.major.toNat ++
    ", minor: " ++ toString i.minor.toNat ++ ", lcid: " ++ toString i.lcid.toNat ++ " \x7d"

namespace TypeRef

/-- The description of a type's structure. -/
def description : TypeRef → String
  | builtin type => "Builtin(" ++ type.label ++ ")"
  | pointer target => "Pointer(" ++ target.description ++ ")"
  | array element length =>
    "Array \x7b element: " ++ element.description ++ ", length: " ++ toString length.toNat ++
      " \x7d"
  | safeArray element => "SafeArray(" ++ element.description ++ ")"
  | named name => "Named(" ++ Text.quoted name ++ ")"
  | external library name =>
    "External \x7b library: " ++ library.description ++ ", name: " ++ Text.quoted name ++ " \x7d"
  | unsupported text => "Unsupported(" ++ Text.quoted text ++ ")"

/-- The label of an interface of the given type. -/
def label : TypeRef → String
  | named name => name
  | external _ name => name
  | builtin type => type.label
  | type => type.description

end TypeRef

end Typelib
