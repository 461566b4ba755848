import Typelib.Generator.Names
import Typelib.Wrapper.Basic

/-!
# The two modules of a library

A module is looked up among the resident ones and then in the store (`Generator.lookup`); a stored
one that is found becomes resident.  One that is not found is generated, committed to the store
and made resident.  Any wrapper under the right name is taken as it is (`ensureWrapper`); a friendly
module has to have the text that would be generated now (`ensureFriendly`), since several versions
of a library share it.
-/

namespace Typelib

universe u

variable {σ : Type u}

namespace Generator

/-- The resident module of a name, if it is acceptable. -/
def residentModule? (g : Generator σ) (name : ModuleName) (accept : Module → Bool) :
    Option Module :=
  (g.resident.get? name).filter accept

/-- The stored module of a name, if it is acceptable. -/
def storedModule? (store : Store σ) (g : Generator σ) (name : ModuleName)
    (accept : Module → Bool) : Option Module :=
  match store.load g.world name with
  | .hit m => if accept m then some m else none
  | _ => none

/-- Looks a module up among the resident ones and then in the store; only an acceptable one is
found. -/
def lookup (store : Store σ) (name : ModuleName) (accept : Module → Bool) (g : Generator σ) :
    Option Module × Generator σ :=
  match g.residentModule? name accept with
  | some m => (some m, g.countResident)
  | none =>
    match storedModule? store g name accept with
    | some m => (some m, g.countStored.keep m)
    | none => (none, g)

/-- Commits a module and makes it resident. -/
def commit (store : Store σ) (name : ModuleName) (text : String) (g : Generator σ) :
    Except RequestError Module × Generator σ :=
  match store.commit g.world name text with
  | (.error e, world) => (.error (.persistence e), { g with world })
  | (.ok m, world) => (.ok m, { g with world }.keep m)

/-- The wrapper of a library, and the libraries it refers to if it has just been generated. -/
def ensureWrapper (env : Environment σ) (store : Store σ) (located : Located) (g : Generator σ) :
    Except RequestError (Module × List Identity) × Generator σ :=
  let identity := located.library.identity
  match g.lookup store identity.wrapperName fun _ => true with
  | (some m, g) => (.ok (m, []), g)
  | (none, g) =>
    match env.items located.library with
    | .error e => (.error (.corrupt e), g)
    | .ok items =>
      let text := (Wrapper.ofItems identity items env.known located.source).text
      match g.countParse.commit store identity.wrapperName text with
      | (.error e, g) => (.error e, g)
      | (.ok m, g) => (.ok (m, items.externals identity), g.countWrapper)

/-- The friendly module of a library, if it has a friendly name. -/
def ensureFriendly (store : Store σ) (library : Library) (wrapper : Module) (g : Generator σ) :
    Except RequestError (Option Module) × Generator σ :=
  match Environment.friendlyName library with
  | .error e => (.error e, g)
  | .ok none => (.ok none, g)
  | .ok (some name) =>
    let text := friendlyText wrapper.name
    match g.lookup store name fun m => m.text = text with
    | (some m, g) => (.ok (some m), g)
    | (none, g) =>
      match g.commit store name text with
      | (.error e, g) => (.error e, g)
      | (.ok m, g) => (.ok (some m), g.countFriendly)

end Generator

end Typelib
