import Typelib.Double.Text
import Typelib.Item.Basic
import Typelib.Source.TypeExpr
import Typelib.Text.Quoted

/-!
# Declarations in generated sources

A `Declaration` is the structure of one declaration, or of one comment, of a wrapper;
`Declaration.lines` is its text.  Beside the text stand the views that statements about wrappers
use: the names it declares among types (`Declaration.typeNames`) and among values
(`Declaration.valueNames`), and the types it writes (`Declaration.types`).
-/

namespace Typelib

/-- A slot of a method structure: the parameters after the object itself and, for a method that
gives something back, the type of the result. -/
structure Slot where
  name : String
  params : List (String × TypeExpr)
  result : Option TypeExpr
  deriving DecidableEq

/-- A declaration at the top of a wrapper, or a comment there. -/
inductive Declaration where
  | comment (isDoc : Bool) (text : String)
  /-- A structure around one value, with the layout of the value. -/
  | handle (name : String) (content : TypeExpr)
  /-- A structure without fields. -/
  | unit (name : String)
  | record (name : String) (fields : List (String × TypeExpr))
  /-- A structure about which nothing is known. -/
  | hollow (name : String)
  /-- The method structure of an interface; `object` is the type of a reference to the object and
  `status` the type every method returns. -/
  | vtable (name : String) (base object status : TypeExpr) (slots : List Slot)
  | typeAlias (name : String) (target : TypeExpr)
  /-- A constant of type `type` for an identifier. -/
  | guid (name : String) (type : TypeExpr) (value : Guid)
  /-- A constant for a member of the enumeration `owner`. -/
  | member (name owner : String) (value : Int64)
  /-- The member numbers of the methods of `owner`. -/
  | memberNumbers (owner : String) (values : List (String × Int32))
  /-- The labels of the interfaces of `owner`. -/
  | labels (owner : String) (values : List String)
  /-- A module of constants. -/
  | constants (name : String) (values : List (String × ConstValue))
  deriving DecidableEq

/-- Generated sources write numbers from 0.0001 up to, but not including, 10 ^ 16 without an
exponent, and a tie goes up. -/
def sourceNumberStyle : NumberStyle := ⟨-4, 15, .up⟩

/-- Whether an integer fits 32 bits. -/
def fitsInt32 (n : Int64) : Bool := decide (-0x80000000 ≤ n.toInt ∧ n.toInt < 0x80000000)

namespace ConstValue

/-- The type of a constant. -/
def typeText : ConstValue → String
  | int n => if fitsInt32 n then "i32" else "i64"
  | float _ => "f64"
  | str _ => "&str"
  | bool _ => "bool"

/-- The literal of a constant. -/
def literal : ConstValue → String
  | int n => toString n.toInt
  | float d =>
    if d.isFinite then d.text sourceNumberStyle
    else if d.isNaN then "f64::NAN"
    else if d.isNegative then "f64::NEG_INFINITY"
    else "f64::INFINITY"
  | str s => Text.quoted s
  | bool b => if b then "true" else "false"

end ConstValue

namespace Slot

/-- The parameters in order: the object, the declared ones and the place for the result. -/
def allParams (object : TypeExpr) (s : Slot) : List (String × TypeExpr) :=
  ("this", object) :: s.params ++ (s.result.toList.map fun type => ("result__", .pointer type))

/-- The text of a slot. -/
def line (object status : TypeExpr) (s : Slot) : String :=
  let params := (s.allParams object).map fun param => param.1 ++ ": " ++ param.2.text
  "    pub " ++ s.name ++ ": unsafe extern \x22system\x22 fn(" ++ ", ".intercalate params ++
    ") -> " ++ status.text ++ ","

end Slot

namespace Declaration

/-- The line of a field. -/
def fieldLine (name : String) (type : TypeExpr) : String :=
  "    pub " ++ name ++ ": " ++ type.text ++ ","

/-- The lines of a block. -/
def block (head : String) (inner : List String) : List String :=
  (head ++ " \x7b") :: inner ++ ["\x7d"]

/-- The line of a constant. -/
def constantLine (name type value : String) : String :=
  "pub const " ++ name ++ ": " ++ type ++ " = " ++ value ++ ";"

/-- The lines of a declaration. -/
def lines : Declaration → List String
  | comment isDoc text => [(if isDoc then "/// " else "// ") ++ text]
  | handle name content =>
    ["#[repr(transparent)]", "pub struct " ++ name ++ "(pub " ++ content.text ++ ");"]
  | unit name => ["pub struct " ++ name ++ ";"]
  | record name fields =>
    "#[repr(C)]" :: block ("pub struct " ++ name) (fields.map fun f => fieldLine f.1 f.2)
  | hollow name => "#[repr(C)]" :: block ("pub struct " ++ name) ["    _opaque: [u8; 0],"]
  | vtable name base object status slots =>
    "#[repr(C)]" :: block ("pub struct " ++ name)
      (fieldLine "base__" base :: slots.map (Slot.line object status))
  | typeAlias name target => ["pub type " ++ name ++ " = " ++ target.text ++ ";"]
  | guid name type value =>
    [constantLine name type.text
      (type.text ++ "::from_u128(0x" ++ String.ofList (value.separated '_') ++ ")")]
  | member name owner value => [constantLine name owner (toString value.toInt)]
  | memberNumbers owner values =>
    block ("impl " ++ owner)
      (values.map fun v => "    " ++ constantLine ("DISPID_" ++ v.1) "i32" (toString v.2.toInt))
  | labels owner values =>
    block ("impl " ++ owner)
      ["    " ++ constantLine "INTERFACES" "&'static [&'static str]"
        ("&[" ++ ", ".intercalate (values.map Text.quoted) ++ "]")]
  | constants name values =>
    block ("pub mod " ++ name)
      (values.map fun v => "    " ++ constantLine v.1 v.2.typeText v.2.literal)

/-- The names declared among the types. -/
def typeNames : Declaration → List String
  | handle name _ | unit name | record name _ | hollow name | vtable name .. | typeAlias name _
  | constants name _ => [name]
  | comment .. | guid .. | member .. | memberNumbers .. | labels .. => []

/-- The names declared among the values; a structure that is built like a function or a constant
is one of them. -/
def valueNames : Declaration → List String
  | handle name _ | unit name | guid name .. | member name .. => [name]
  | comment .. | record .. | hollow .. | vtable .. | typeAlias .. | memberNumbers .. | labels ..
  | constants .. => []

/-- The alias a declaration introduces. -/
def aliasName? : Declaration → Option String
  | typeAlias name _ => some name
  | _ => none

/-- The types a declaration relies on, in the order they are written. -/
def types : Declaration → List TypeExpr
  | handle _ content => [content]
  | record _ fields => fields.map Prod.snd
  | vtable _ base object status slots =>
    base :: slots.flatMap (fun s => (s.allParams object).map Prod.snd) ++ [object, status]
  | typeAlias _ target => [target]
  | guid _ type _ => [type]
  | comment .. | unit .. | hollow .. | member .. | memberNumbers .. | labels ..
  | constants .. => []

/-- The bare names in the types of a declaration. -/
def names (d : Declaration) : List NameRef := d.types.flatMap TypeExpr.names

end Declaration

end Typelib
