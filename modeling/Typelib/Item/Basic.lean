import Typelib.Double.Basic
import Typelib.Item.TypeRef
import Typelib.Table

/-!
# Items of a library

An `Item` is one declaration of a type library.  The items of a library are a `Table` from names
to items, in the order of declaration; `externals` are the other libraries its types name.
-/

namespace Typelib

/-- How a method is invoked. -/
inductive InvokeKind where
  | func
  | propGet
  | propPut
  | propPutRef
  deriving DecidableEq

/-- Which way an argument is passed. -/
inductive Direction where
  | into
  | out
  | inOut
  deriving DecidableEq

/-- A parameter of a method. -/
structure Param where
  name : String
  type : TypeRef
  direction : Direction
  optional : Bool
  deriving DecidableEq

/-- A method; `memid` is its member number, `returns` is void when it gives back a status only. -/
structure Method where
  name : String
  kind : InvokeKind
  memid : Option Int32
  params : List Param
  returns : TypeRef
  deriving DecidableEq

/-- A field of a structure. -/
structure Field where
  name : String
  type : TypeRef
  deriving DecidableEq

/-- An interface of a coclass; a source interface is one through which it sends events. -/
structure Implemented where
  interface : TypeRef
  isDefault : Bool
  isSource : Bool
  deriving DecidableEq

/-- The value of a constant. -/
inductive ConstValue where
  | int (value : Int64)
  | float (value : Double)
  | str (value : String)
  | bool (value : Bool)
  deriving DecidableEq

/-- A constant of a module. -/
structure Constant where
  name : String
  value : ConstValue
  deriving DecidableEq

/-- A declaration of a type library. -/
inductive Item where
  | interface (name : String) (iid : Option Guid) (base : Option TypeRef) (methods : List Method)
  | dispInterface (name : String) (iid : Option Guid) (methods : List Method)
  | coClass (name : String) (clsid : Option Guid) (implemented : List Implemented)
  | enumeration (name : String) (members : List (String × Int64))
  | struct (name : String) (fields : List Field)
  | typeAlias (name : String) (target : TypeRef)
  | constants (name : String) (values : List Constant)
  /-- A declaration of a kind that is not supported. -/
  | unsupported (name : String) (construct : String)
  deriving DecidableEq

/-- The items of a library by name, in the order of declaration. -/
abbrev Items := Table String Item

/-- The types a method names. -/
def Method.types (m : Method) : List TypeRef := m.params.map Param.type ++ [m.returns]

namespace Item

/-- The declared name. -/
def name : Item → String
  | interface name .. => name
  | dispInterface name .. => name
  | coClass name .. => name
  | enumeration name _ => name
  | struct name _ => name
  | typeAlias name _ => name
  | constants name _ => name
  | unsupported name _ => name

/-- The types an item names itself, in the order they are written. -/
def types : Item → List TypeRef
  | interface _ _ base methods => base.toList ++ methods.flatMap Method.types
  | dispInterface _ _ methods => methods.flatMap Method.types
  | coClass _ _ implemented => implemented.map Implemented.interface
  | struct _ fields => fields.map Field.type
  | typeAlias _ target => [target]
  | enumeration .. | constants .. | unsupported .. => []

/-- Whether an item is an interface that is not a dispatch interface. -/
def isInterface : Item → Bool
  | interface .. => true
  | _ => false

/-- Whether the kind of declaration is one that is supported. -/
def isSupported : Item → Bool
  | unsupported .. => false
  | _ => true

end Item

namespace Items

/-- The libraries other than `own` that the types of the items name, in order. -/
def externals (items : Items) (own : Identity) : List Identity :=
  let named := items.values.flatMap fun item => item.types.flatMap TypeRef.libraries
  Identity.sorted (named.filter (· ≠ own))

/-- A library is never among its own externals. -/
theorem own_not_mem_externals (items : Items) (own : Identity) : own ∉ externals items own := by
  simp [externals, Identity.sorted, mem_ascending]

/-- Whether every key is the name of its item, as in the items read from a descriptor. -/
def AreNamed (items : Items) : Prop := ∀ entry ∈ items.entries, entry.2.name = entry.1

end Items

end Typelib
