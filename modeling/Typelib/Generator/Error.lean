import Typelib.Library.Load
import Typelib.Naming
import Typelib.Store.Basic

/-!
# Why requests fail

A request fails because its designator leads nowhere, because the library cannot be loaded or read,
because of a name, or because a generated module cannot be stored.  A `RequestError` keeps the
cause; a stored module that cannot be used is no failure, since it is generated again.
-/

namespace Typelib

/-- Why a request fails. -/
inductive RequestError where
  | resolution (error : ResolutionError)
  | load (error : LoadError)
  | corrupt (error : CorruptDescriptor)
  | collision (error : NameCollision)
  /-- A library that was asked for by its identity declares another one. -/
  | mismatch (requested loaded : Identity)
  | persistence (error : StoreError)
  deriving DecidableEq

namespace RequestError

/-- The message without the details of a cause outside the program. -/
def brief : RequestError → String
  | resolution e => e.message
  | load (.invalidFormat path fault code) =>
    match fault with
    | .declares .. => (LoadError.invalidFormat path fault code).message
    | _ => "invalid type library format in " ++ path.text
  | load e => e.message
  | corrupt e => e.message
  | collision e => e.message
  | mismatch requested loaded =>
    "requested type library " ++ requested.text ++ " but loaded " ++ loaded.text
  | persistence e => "persistence failed: " ++ e.brief

/-- The full message. -/
def message : RequestError → String
  | load e => e.message
  | persistence e => "persistence failed: " ++ e.message
  | e => e.brief

end RequestError

end Typelib
