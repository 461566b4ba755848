import Typelib.Item.Decode

/-!
# Writing items

`Item.toJson` writes an item as the data that `Item.ofJson?` reads, with every field named and the
members of every object in ascending order.
-/

namespace Typelib

open Json

/-- A value that may be missing; a missing one is null. -/
def Json.ofOption {α : Type} (write : α → Json) : Option α → Json
  | none => null
  | some a => write a

/-- A list of values. -/
def Json.ofList {α : Type} (write : α → Json) (xs : List α) : Json := array (xs.map write)

def Guid.toJson (g : Guid) : Json := string g.braced

def Identity.toJson (i : Identity) : Json :=
  object [("lcid", nat i.lcid.toNat), ("libid", i.libid.toJson), ("major", nat i.major.toNat),
    ("minor", nat i.minor.toNat)]

def TypeRef.toJson : TypeRef → Json
  | builtin type => object [("builtin", string type.keyword)]
  | pointer target => object [("pointer", target.toJson)]
  | array element length =>
    object [("array", object [("element", element.toJson), ("length", nat length.toNat)])]
  | safeArray element => object [("safe_array", element.toJson)]
  | named name => object [("named", string name)]
  | external library name =>
    object [("external", object [("library", library.toJson), ("name", string name)])]
  | unsupported description => object [("unsupported", string description)]

def Param.toJson (p : Param) : Json :=
  object [("direction", string p.direction.keyword), ("name", string p.name),
    ("optional", bool p.optional), ("type", p.type.toJson)]

def Method.toJson (m : Method) : Json :=
  object [("kind", string m.kind.keyword), ("memid", ofOption (fun n => int n.toInt) m.memid),
    ("name", string m.name), ("params", ofList Param.toJson m.params),
    ("returns", m.returns.toJson)]

def Field.toJson (f : Field) : Json :=
  object [("name", string f.name), ("type", f.type.toJson)]

def Implemented.toJson (i : Implemented) : Json :=
  object [("default", bool i.isDefault), ("interface", i.interface.toJson),
    ("source", bool i.isSource)]

/-- The value of a constant; a number that is not finite is written as null. -/
def ConstValue.toJson : ConstValue → Json
  | int n => object [("int", Json.int n.toInt)]
  | float d => object [("float", if d.isFinite then number (.double d) else null)]
  | str s => object [("str", string s)]
  | bool b => object [("bool", Json.bool b)]

def Constant.toJson (c : Constant) : Json :=
  object [("name", string c.name), ("value", c.value.toJson)]

/-- A member of an enumeration. -/
def enumMemberToJson (member : String × Int64) : Json :=
  array [string member.1, int member.2.toInt]

/-- An item with its kind among its members. -/
def Item.toJson : Item → Json
  | interface name iid base methods =>
    object [("base", ofOption TypeRef.toJson base), ("iid", ofOption Guid.toJson iid),
      ("kind", string "interface"), ("methods", ofList Method.toJson methods),
      ("name", string name)]
  | dispInterface name iid methods =>
    object [("iid", ofOption Guid.toJson iid), ("kind", string "disp_interface"),
      ("methods", ofList Method.toJson methods), ("name", string name)]
  | coClass name clsid implemented =>
    object [("clsid", ofOption Guid.toJson clsid),
      ("implemented_interfaces", ofList Implemented.toJson implemented),
      ("kind", string "co_class"), ("name", string name)]
  | enumeration name members =>
    object [("kind", string "enum"), ("members", ofList enumMemberToJson members),
      ("name", string name)]
  | struct name fields =>
    object [("fields", ofList Field.toJson fields), ("kind", string "struct"),
      ("name", string name)]
  | typeAlias name target =>
    object [("kind", string "alias"), ("name", string name), ("target_type", target.toJson)]
  | constants name values =>
    object [("constants", ofList Constant.toJson values), ("kind", string "module"),
      ("name", string name)]
  | unsupported name construct =>
    object [("construct", string construct), ("kind", string "opaque"), ("name", string name)]

end Typelib
