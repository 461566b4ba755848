import Typelib.Store.Basic

/-!
# The store in memory

Modules are sealed and checked as in a directory, but kept in a table.
-/

namespace Typelib

/-- Sealed modules by name. -/
abbrev SealedTable := Table ModuleName String

namespace SealedTable

/-- What a table holds under a name. -/
def lookup (sealed : SealedTable) (name : ModuleName) : Lookup :=
  match sealed.get? name with
  | none => .absent
  | some text =>
    match readSealed name text with
    | .ok body => .hit ⟨name, body, .memory⟩
    | .error e => .invalid (.unsealed none e)

/-- Seals and stores a module, and looks it up again. -/
def commit (sealed : SealedTable) (name : ModuleName) (body : String) :
    Except StoreError Module × SealedTable :=
  let stored := sealed.insert name (sealText name body)
  (Store.imported name (lookup stored name), stored)

end SealedTable

/-- The store in memory. -/
def Store.memory : Store SealedTable :=
  { description := "in-memory"
    isPersistent := false
    location := none
    load := SealedTable.lookup
    commit := SealedTable.commit
    list := fun sealed => .ok (sortedNames sealed.keys) }

end Typelib
