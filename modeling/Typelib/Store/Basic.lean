import Typelib.Ascending
import Typelib.Files.Basic
import Typelib.Module.Basic
import Typelib.Module.Seal

/-!
# Stores of modules

A `Store σ` keeps sealed modules in a state of type `σ`.  Looking a module up never fails: a module
that is missing, or that is there but cannot be used, is reported as such.  A commit seals and
stores a module and then looks it up again.
-/

namespace Typelib

universe u v

/-- Why what is stored under a name cannot be used. -/
inductive ImportFault where
  | vanished
  | unreadable (path : Path) (fault : Fault)
  | unsealed (path : Option Path) (error : SealError)
  | stated (text : String)
  deriving DecidableEq

/-- The fault in words, with the path if there is one. -/
def ImportFault.message : ImportFault → String
  | vanished => "module vanished after write"
  | unreadable path fault => "cannot read " ++ path.text ++ ": " ++ fault.message
  | unsealed none error => error.message
  | unsealed (some path) error => path.text ++ ": " ++ error.message
  | stated text => text

/-- What is stored under a name. -/
inductive Lookup where
  | hit (module : Module)
  | absent
  | invalid (fault : ImportFault)
  deriving DecidableEq

/-- Why an operation of a store fails. -/
inductive StoreError where
  | openFailed (path : Path) (fault : Fault)
  | writeFailed (name : ModuleName) (fault : Fault)
  | importFailed (name : ModuleName) (fault : ImportFault)
  | inputOutput (fault : Fault)
  deriving DecidableEq

namespace StoreError

/-- The message without the details of the cause. -/
def brief : StoreError → String
  | openFailed path _ => "cannot open module store " ++ path.text
  | writeFailed name _ => "failed to write module " ++ name.text
  | importFailed name _ => "failed to import module " ++ name.text
  | inputOutput _ => "I/O error"

/-- The details of the cause. -/
def detail : StoreError → String
  | openFailed _ fault => fault.message
  | writeFailed _ fault => fault.message
  | importFailed _ fault => fault.message
  | inputOutput fault => fault.message

/-- The full message. -/
def message (e : StoreError) : String := e.brief ++ ": " ++ e.detail

end StoreError

/-- A store of modules. -/
structure Store (σ : Type u) where
  /-- A short description for reports. -/
  description : String
  /-- Whether modules outlive the program. -/
  isPersistent : Bool
  /-- The directory of the modules, if there is one. -/
  location : Option Path
  load : σ → ModuleName → Lookup
  commit : σ → ModuleName → String → Except StoreError Module × σ
  list : σ → Except StoreError (List ModuleName)

namespace Store

/-- What a commit answers once the module is stored. -/
def imported (name : ModuleName) : Lookup → Except StoreError Module
  | .hit m => .ok m
  | .absent => .error (.importFailed name .vanished)
  | .invalid fault => .error (.importFailed name fault)

/-- A store over one part of a larger state. -/
def within {σ : Type u} {τ : Type v} (store : Store σ) (get : τ → σ) (set : τ → σ → τ) : Store τ :=
  { description := store.description
    isPersistent := store.isPersistent
    location := store.location
    load := fun state name => store.load (get state) name
    commit := fun state name body =>
      let (result, part) := store.commit (get state) name body
      (result, set state part)
    list := fun state => store.list (get state) }

/-- A store that holds nothing and refuses every commit. -/
def refusing (σ : Type u) : Store σ :=
  { description := "failing store"
    isPersistent := true
    location := none
    load := fun _ _ => .absent
    commit := fun state name _ => (.error (.writeFailed name .missing), state)
    list := fun _ => .ok [] }

end Store

/-- The distinct names of modules, in order. -/
def sortedNames (names : List ModuleName) : List ModuleName := ascending ModuleName.below names

end Typelib
