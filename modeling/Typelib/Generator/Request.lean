import Typelib.Generator.Chase

/-!
# Requests

`Generator.serve` makes the modules of a library in these steps.

1. Open the store (`Generator.openStore`).
2. Resolve and load the library (`Environment.locate`).
3. Look its wrapper up, or generate and commit it (`Generator.ensureWrapper`).
4. Take up the libraries that a generated wrapper refers to (`Generator.chase`).
5. Look the friendly module up, or generate and commit it (`Generator.ensureFriendly`).

A step that fails ends the request, except that the fourth never fails.  `Generator.request` is the
module that results.
-/

namespace Typelib

universe u

variable {σ : Type u}

/-- A request that has been served: what became of the library itself and of those that were taken
up for it, and the generator afterwards. -/
structure Served (σ : Type u) where
  root : Outcome
  visits : List Visit
  generator : Generator σ

namespace Generator

/-- Makes the modules of a library.  Relative paths are seen from `base` first. -/
def serve (env : Environment σ) (designator : Designator) (base : Option Path)
    (g : Generator σ) : Served σ :=
  let (store, g) := g.openStore env
  match env.locate g.world designator base with
  | .error e => ⟨.failed e, [], g⟩
  | .ok located =>
    match g.ensureWrapper env store located with
    | (.error e, g) => ⟨.failed e, [], g⟩
    | (.ok (wrapper, externals), g) =>
      let root := located.library.identity
      let (visits, g) := g.chase env store [root] (by simp) externals
      let (outcome, g) := g.finish store located.library wrapper externals
      ⟨outcome, visits, g⟩

/-- The friendly module of a library, or its wrapper if it has no friendly name. -/
def request (env : Environment σ) (designator : Designator) (base : Option Path)
    (g : Generator σ) : Except RequestError Module × Generator σ :=
  let served := g.serve env designator base
  (served.root.answer, served.generator)

end Generator

end Typelib
