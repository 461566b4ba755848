import Typelib.Ascending
import Typelib.Table

/-!
# Known symbols

A table of `Symbols` says which names other modules define already.  A wrapper never declares such
a name but imports it from its owner; the standard table holds what the runtime support provides.
-/

namespace Typelib

/-- The owner of every known symbol. -/
abbrev Symbols := Table String String

/-- The symbols imported from one module. -/
structure Import where
  owner : String
  names : List String
  deriving DecidableEq

namespace Symbols

/-- The symbols of the runtime support. -/
def standard : Symbols :=
  let owned (owner : String) (names : List String) := names.map fun name => (name, owner)
  Table.ofList
    (owned "tlbgen_runtime"
        ["GUID", "HRESULT", "IUnknown", "IUnknown_Vtbl", "IDispatch", "IDispatch_Vtbl"] ++
      owned "tlbgen_runtime::automation"
        ["BSTR", "VARIANT", "VARIANT_BOOL", "CY", "DATE", "DECIMAL", "SAFEARRAY", "PSTR",
          "PWSTR"] ++
      owned "core::ffi" ["c_void", "c_char"])

/-- The table with further symbols; a later owner of a symbol replaces an earlier one. -/
def extend (known : Symbols) (symbols : List (String × String)) : Symbols :=
  symbols.foldl (fun known symbol => known.insert symbol.1 symbol.2) known

/-- The names, in order. -/
def names (known : Symbols) : List String := sortedTexts known.keys

/-- The known symbols among some names, by owner; owners and names are in order. -/
def imports (known : Symbols) (used : List String) : List Import :=
  let owners := sortedTexts (used.filterMap fun name => known.get? name)
  owners.map fun owner =>
    ⟨owner, sortedTexts (used.filter fun name => known.get? name = some owner)⟩

end Symbols

end Typelib
