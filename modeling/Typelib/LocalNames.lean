import Typelib.Identifier
import Typelib.Item.Basic
import Typelib.Symbols

/-!
# The identifiers of a library's items

Known symbols are taken from the start, since a wrapper imports them.  The items then claim
identifiers in the order of declaration: an item the identifier of its name, an interface a second
one for the structure of its methods.  A claim for a taken name gets the first free one with a
number at its end (`nextFree`).
-/

namespace Typelib

/-- A name with a number at its end. -/
def numbered (preferred : String) (n : Nat) : String := preferred ++ "_" ++ toString n

/-- The preferred name if it is free, or the first free one of `preferred_2`, `preferred_3`, ….
When the preferred name is taken, one of as many candidates as there are taken names is free. -/
def nextFree (taken : List String) (preferred : String) : String :=
  if preferred ∈ taken then
    let candidates := (List.range taken.length).map fun k => numbered preferred (k + 2)
    (candidates.find? fun name => name ∉ taken).getD (numbered preferred (taken.length + 2))
  else preferred

/-- The identifiers assigned to items and to the method structures of interfaces, by declared
name, and all identifiers taken so far, the latest first. -/
structure LocalNames where
  idents : Table String String
  vtables : Table String String
  taken : List String

namespace LocalNames

/-- Before any claim the known symbols are taken. -/
def start (known : Symbols) : LocalNames := ⟨.empty, .empty, known.keys⟩

/-- Claims an identifier for an item. -/
def claimIdent (names : LocalNames) (declared : String) : LocalNames :=
  let ident := nextFree names.taken (identifier declared)
  { names with idents := names.idents.insert declared ident, taken := ident :: names.taken }

/-- Claims an identifier for the method structure of the interface just claimed. -/
def claimVtable (names : LocalNames) (declared : String) : LocalNames :=
  let ident := (names.idents.get? declared).getD (identifier declared)
  let vtable := nextFree names.taken (ident ++ "_Vtbl")
  { names with vtables := names.vtables.insert declared vtable, taken := vtable :: names.taken }

/-- Claims the identifiers of an item; a known symbol claims none. -/
def claim (known : Symbols) (names : LocalNames) (item : Item) : LocalNames :=
  if known.contains item.name then names
  else
    let claimed := names.claimIdent item.name
    if item.isInterface then claimed.claimVtable item.name else claimed

/-- The identifiers of some items. -/
def assign (items : Items) (known : Symbols) : LocalNames :=
  items.values.foldl (claim known) (start known)

/-- The identifier of an item; for a name without one, the identifier made of the name. -/
def identOf (names : LocalNames) (declared : String) : String :=
  (names.idents.get? declared).getD (identifier declared)

/-- The identifier of the method structure of an interface. -/
def vtableOf (names : LocalNames) (declared : String) : String :=
  (names.vtables.get? declared).getD (names.identOf declared ++ "_Vtbl")

end LocalNames

end Typelib
