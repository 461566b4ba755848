import Typelib.Proofs.Generator.Watching

/-!
# What the counters account for

Each module that a request ends with was found resident, found in the store, or generated, and one
of the counters says so: a library that fails adds nothing, whatever had been tried for it
(`TakeUpStep.counted`).  So a request adds as much as there are wrappers and friendly modules among
its outcomes (`serve_counted`).  A parse is followed by the commit of a wrapper, which counts if it
is done, so the parses exceed the wrappers that were generated by the commits that failed
(`stats_account`).
-/

namespace Typelib

universe u

variable {σ : Type u}

/-- How many look-ups ended with a module. -/
def Stats.answered (s : Stats) : Nat :=
  s.residentHits + s.storeHits + s.wrappersGenerated + s.friendlyGenerated

namespace Outcome

/-- There is a wrapper. -/
def hasWrapper : Outcome → Bool
  | failed _ => false
  | wrapperOnly .. | complete .. => true

/-- There is a friendly module. -/
def hasFriendly : Outcome → Bool
  | complete _ _ friendly => friendly.isSome
  | failed _ | wrapperOnly .. => false

/-- How many modules there are. -/
def moduleCount (outcome : Outcome) : Nat := outcome.hasWrapper.toNat + outcome.hasFriendly.toNat

theorem sum_moduleCount (outcomes : List Outcome) :
    (outcomes.map moduleCount).sum =
      outcomes.countP hasWrapper + outcomes.countP hasFriendly := by
  induction outcomes with
  | nil => rfl
  | cons outcome rest ih =>
    rw [List.map_cons, List.sum_cons, ih, moduleCount, List.countP_cons, List.countP_cons]
    cases outcome.hasWrapper <;> cases outcome.hasFriendly <;> simp <;> omega

end Outcome

/-- What became of the library that was asked for and of those that were taken up for it. -/
def Served.outcomes (served : Served σ) : List Outcome :=
  served.root :: served.visits.map Visit.outcome

namespace Generator

section Steps

variable {env : Environment σ} {store : Store σ} {located : Located} {library : Library}
  {wrapper : Module} {identity : Identity} {events : List Event}
  {g : Generator σ}

/-- A wrapper that there is was found or generated; without one nothing is counted but a parse. -/
theorem WrapperStep.counted {r : Except RequestError (Module × List Identity) × Generator σ}
    (h : WrapperStep env store located g events r) :
    r.2.stats.answered = g.stats.answered + r.1.isOk.toNat := by
  cases h <;>
    simp only [Stats.answered, countResident, countStored, countParse, countWrapper, keep,
      Except.isOk, Except.toBool, Bool.toNat_true, Bool.toNat_false] <;> omega

/-- So is a friendly module. -/
theorem FriendlyStep.counted {r : Except RequestError (Option Module) × Generator σ}
    (h : FriendlyStep store library wrapper g events r) (externals : List Identity) :
    r.2.stats.answered =
      g.stats.answered + (Outcome.finished wrapper externals r.1).hasFriendly.toNat := by
  cases h <;>
    simp only [Stats.answered, countResident, countStored, countFriendly, keep, Outcome.finished,
      Outcome.hasFriendly, Option.isSome, Bool.toNat_true, Bool.toNat_false] <;> omega

theorem hasWrapper_finished (externals : List Identity)
    (friendly : Except RequestError (Option Module)) :
    (Outcome.finished wrapper externals friendly).hasWrapper := by
  cases friendly <;> rfl

/-- Taking a library up adds as much as it ends with modules. -/
theorem TakeUpStep.counted {r : Outcome × Generator σ}
    (h : TakeUpStep env store identity g events r) :
    r.2.stats.answered = g.stats.answered + r.1.moduleCount := by
  cases h with
  | unlocated hlocate => rfl
  | mismatch hlocate hother => rfl
  | failed hlocate hidentity hwrapper => exact hwrapper.counted
  | @finished located events more wrapper externals between r hlocate hidentity hwrapper
      hfriendly =>
    rw [hfriendly.counted externals, hwrapper.counted, Outcome.moduleCount, hasWrapper_finished,
      Nat.add_assoc]
    rfl

theorem Taken.counted {visits : List Visit} {after : Generator σ}
    (h : Taken env store g visits after) :
    after.stats.answered =
      g.stats.answered + ((visits.map Visit.outcome).map Outcome.moduleCount).sum := by
  induction h with
  | nil => rfl
  | @cons g after identity visits h ih =>
    have hstep := takeUp_step env store identity g
    rw [ih, hstep.counted, List.map_cons, List.map_cons, List.sum_cons, Nat.add_assoc]

theorem ServeStep.counted {designator : Designator} {base : Option Path} {served : Served σ}
    (h : ServeStep env store designator base g events served) :
    served.generator.stats.answered =
      g.stats.answered + (served.outcomes.map Outcome.moduleCount).sum := by
  cases h with
  | unlocated hlocate => rfl
  | failed hlocate hwrapper => exact hwrapper.counted
  | @finished located events more wrapper externals between chased r hlocate hwrapper hchase
      hfriendly =>
    have hvisits := Taken.of_chaseFrom hchase
    rw [hfriendly.counted externals, hvisits.counted, hwrapper.counted, Served.outcomes,
      List.map_cons, List.sum_cons, Outcome.moduleCount, hasWrapper_finished]
    simp only [Except.isOk, Except.toBool, Bool.toNat_true]
    omega

end Steps

/-- A request adds as many answers as there are wrappers and friendly modules among its outcomes. -/
theorem serve_counted (env : Environment σ) (designator : Designator) (base : Option Path)
    (g : Generator σ) :
    (g.serve env designator base).generator.stats.answered = g.stats.answered +
      ((g.serve env designator base).outcomes.countP Outcome.hasWrapper +
        (g.serve env designator base).outcomes.countP Outcome.hasFriendly) := by
  rw [(serve_step env designator base g).counted, Outcome.sum_moduleCount,
    openStore_stats env g]

theorem countP_isWrapper (attempts : List Attempt) :
    attempts.countP Attempt.isWrapper =
      attempts.countP Attempt.isNewWrapper + attempts.countP Attempt.isRefusedWrapper := by
  induction attempts with
  | nil => rfl
  | cons a rest ih =>
    rw [List.countP_cons, List.countP_cons, List.countP_cons, ih, Attempt.isNewWrapper,
      Attempt.isRefusedWrapper]
    cases a.isWrapper <;> cases a.isDone <;> simp <;> omega

/-- In every run of a generator that starts with nothing done, each request adds to the answered
look-ups and generated modules one for each library of which there is a wrapper then, and one for
each of which there is a friendly module; and the parses exceed the wrappers generated by the
commits of wrappers that have failed. -/
theorem stats_account (actions : List (Action σ)) (world : σ) (destination : Destination σ) :
    let start := start world destination
    let g := run actions start
    (∀ env designator base,
      let served := g.serve env designator base
      served.generator.stats.answered = g.stats.answered +
        (served.outcomes.countP Outcome.hasWrapper +
          served.outcomes.countP Outcome.hasFriendly)) ∧
    ∃ attempts, runWatched actions (start.watched []) = g.watched attempts ∧
      g.stats.parses =
        g.stats.wrappersGenerated + attempts.countP Attempt.isRefusedWrapper ∧
      g.stats.wrappersGenerated ≤ g.stats.parses := by
  intro start g
  obtain ⟨attempts, hwatched, htally⟩ := run_watched actions start []
  have hparses : g.stats.parses = attempts.countP Attempt.isWrapper := by
    rw [htally.parses]
    exact Nat.zero_add _
  have hwrappers : g.stats.wrappersGenerated = attempts.countP Attempt.isNewWrapper := by
    rw [htally.wrappers]
    exact Nat.zero_add _
  have hsplit : g.stats.parses =
      g.stats.wrappersGenerated + attempts.countP Attempt.isRefusedWrapper := by
    rw [hparses, hwrappers, countP_isWrapper]
  refine ⟨fun env designator base => serve_counted env designator base g, attempts, hwatched,
    hsplit, ?_⟩
  rw [hsplit]
  exact Nat.le_add_right _ _

end Generator

end Typelib
