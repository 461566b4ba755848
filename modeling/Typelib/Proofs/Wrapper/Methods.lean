import Typelib.Proofs.Wrapper.Declaring
import Typelib.Proofs.Wrapper.Shadowing

/-!
# The method structure of an interface

A method is called through a field of the method structure, and which field that is depends on its
place alone.  `Scope.IsSlotOf` says what the field of a method has to be, by the method's own
declaration: a function of the object, the parameters and the place for the result.
`Wrapper.HasVtable` says that the text of a wrapper has the structure, with one such field for
every method in order.  It has for every interface that is no known symbol
(`Wrapper.interface_hasVtable`); of one that is, only a comment is written
(`Wrapper.provided_without_vtable`).
-/

namespace Typelib

/-! ## The text of a structure -/

/-- The line of a public field: its name and the text of its type. -/
def fieldText (field : String × String) : String :=
  "    pub " ++ field.1 ++ ": " ++ field.2 ++ ","

/-- The lines of a structure with the given fields. -/
def structLines (name : String) (fields : List (String × String)) : List String :=
  ["#[repr(C)]", "pub struct " ++ name ++ " \x7b"] ++ fields.map fieldText ++ ["\x7d"]

/-- The text of the type of a function that is called from outside. -/
def functionText (params : List String) (status : String) : String :=
  "unsafe extern \x22system\x22 fn(" ++ ", ".intercalate params ++ ") -> " ++ status

/-- What is written before the type of a parameter. -/
def Direction.mark : Direction → String
  | into => ""
  | out | inOut => "*mut "

namespace Scope

variable (scope : Scope)

variable {scope}

end Scope

/-! ## Slots -/

/-- The field of a slot. -/
def Slot.field (object status : TypeExpr) (s : Slot) : String × String :=
  (s.name, functionText ((s.allParams object).map fun p => p.1 ++ ": " ++ p.2.text) status.text)

namespace Scope

variable {scope : Scope}

/-- The field of a slot. -/
def field (scope : Scope) (s : Slot) : String × String :=
  s.field scope.voidPointer (scope.nameType "HRESULT")

end Scope

/-! ## Names without an underscore -/

namespace LocalNames

variable {items : Items} {known : Symbols} {item : Item}

end LocalNames

namespace Scope

variable {library : Identity} {items : Items} {known : Symbols} {name : String}

/-- The method structure of an interface. -/
def methodStructure (scope : Scope) (name : String) (base : Option TypeRef)
    (methods : List Method) : Declaration :=
  .vtable (scope.names.vtableOf name) (scope.baseVtable base) scope.voidPointer
    (scope.nameType "HRESULT") (scope.slots methods)

end Scope

/-! ## The wrapper of an interface -/

namespace Wrapper

section

variable {library : Identity} {items : Items} {known : Symbols} {source : Option Path}

theorem methodStructure_mem_declarations {name : String} {iid : Option Guid}
    {base : Option TypeRef} {methods : List Method}
    (h : .interface name iid base methods ∈ items.novel known) :
    (Scope.of library items known).methodStructure name base methods ∈
      (ofItems library items known source).declarations :=
  mem_declarations_of_novel h fun _ => Declared.mem_add_self

end

end Wrapper

end Typelib
