import Typelib.Generator.Modules

/-!
# Following references to other libraries

A generated wrapper refers to wrappers of other libraries, so these are made as well, and those
that theirs refer to (`Generator.chase`).  Every library is taken up at most once; the root is not
taken up again.  A library for which a step fails is passed over.  Since only finitely many
identities exist and none is visited twice, the chase comes to an end.
-/

namespace Typelib

universe u

variable {σ : Type u}

/-- What became of the modules of one library. -/
inductive Outcome where
  /-- There is no wrapper. -/
  | failed (error : RequestError)
  /-- There is a wrapper, but the friendly module could not be made. -/
  | wrapperOnly (wrapper : Module) (externals : List Identity) (error : RequestError)
  /-- There is a wrapper and, if the library has a friendly name, a friendly module. -/
  | complete (wrapper : Module) (externals : List Identity) (friendly : Option Module)
  deriving DecidableEq

namespace Outcome

/-- The friendly module or, for a library without a friendly name, the wrapper; or why there is
neither. -/
def answer : Outcome → Except RequestError Module
  | failed e => .error e
  | wrapperOnly _ _ e => .error e
  | complete wrapper _ friendly => .ok (friendly.getD wrapper)

/-- The libraries to take up next: those a wrapper refers to that was generated just now, if
nothing failed. -/
def found : Outcome → List Identity
  | complete _ externals _ => externals
  | failed _ | wrapperOnly .. => []

end Outcome

/-- A library that was taken up, and what became of it. -/
structure Visit where
  identity : Identity
  outcome : Outcome
  deriving DecidableEq

namespace Generator

/-- The step after the wrapper. -/
def finish (store : Store σ) (library : Library) (wrapper : Module) (externals : List Identity)
    (g : Generator σ) : Outcome × Generator σ :=
  match g.ensureFriendly store library wrapper with
  | (.error e, g) => (.wrapperOnly wrapper externals e, g)
  | (.ok friendly, g) => (.complete wrapper externals friendly, g)

/-- Makes the modules of a library that another one refers to. -/
def takeUp (env : Environment σ) (store : Store σ) (identity : Identity) (g : Generator σ) :
    Outcome × Generator σ :=
  match env.locate g.world (.exact identity) none with
  | .error e => (.failed e, g)
  | .ok located =>
    if located.library.identity ≠ identity then
      (.failed (.mismatch identity located.library.identity), g)
    else match g.ensureWrapper env store located with
      | (.error e, g) => (.failed e, g)
      | (.ok (wrapper, externals), g) => g.finish store located.library wrapper externals

/-- Takes up the pending libraries that have not been visited, first come, first served, and those
they refer to.  The answer lists the visits in order. -/
def chase (env : Environment σ) (store : Store σ) (visited : List Identity)
    (distinct : visited.Nodup) (pending : List Identity) (g : Generator σ) :
    List Visit × Generator σ :=
  match pending with
  | [] => ([], g)
  | identity :: rest =>
    if seen : identity ∈ visited then chase env store visited distinct rest g
    else
      let (outcome, g) := g.takeUp env store identity
      let (visits, g) := chase env store (identity :: visited)
        (List.nodup_cons.mpr ⟨seen, distinct⟩) (rest ++ outcome.found) g
      (⟨identity, outcome⟩ :: visits, g)
termination_by (Identity.count - visited.length, pending.length)
decreasing_by
  · exact Prod.Lex.right _ (Nat.lt_succ_self _)
  · have := Identity.length_le_count (List.nodup_cons.mpr ⟨seen, distinct⟩)
    refine Prod.Lex.left _ _ ?_
    simp only [List.length_cons] at this ⊢
    omega

end Generator

end Typelib
