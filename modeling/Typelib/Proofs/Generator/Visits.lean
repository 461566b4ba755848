import Typelib.Proofs.Generator.Steps

/-!
# What a whole request does

A chase is a sequence of libraries taken up one after the other (`chase_taken`), and the
libraries it takes up are exactly the pending ones and those that a library on the way hands on,
less the ones visited before (`mem_chase_iff`); for a request that is the library asked for
(`mem_chaseFrom_iff`).  With the steps of a single library this lists
the ways a request can end (`ServeStep`, `serve_step`).
-/

namespace Typelib

universe u

variable {σ : Type u}

namespace Generator

variable (env : Environment σ) (store : Store σ)

/-! ## The chase -/

/-- Libraries are taken up one after the other, each in the state the one before leaves. -/
inductive Taken : Generator σ → List Visit → Generator σ → Prop
  | nil {g : Generator σ} : Taken g [] g
  | cons {g after : Generator σ} {identity : Identity} {visits : List Visit}
      (h : Taken (g.takeUp env store identity).2 visits after) :
      Taken g (⟨identity, (g.takeUp env store identity).1⟩ :: visits) after

/-- The visits of a chase, in order, lead from the state before to the state after. -/
theorem chase_taken (visited : List Identity) (distinct : visited.Nodup)
    (pending : List Identity) (g : Generator σ) :
    Taken env store g (g.chase env store visited distinct pending).1
      (g.chase env store visited distinct pending).2 := by
  fun_induction chase env store visited distinct pending g with
  | case1 => exact .nil
  | case2 visited distinct g identity rest hseen ih => exact ih
  | case3 visited distinct g identity rest hnew outcome next htake visits after hchase ih =>
    have htaken : Taken env store (g.takeUp env store identity).2 visits after := by
      simpa only [htake, hchase] using ih
    simpa only [htake] using Taken.cons htaken

/-- What a chase takes up: what is pending or handed on, and has not been visited. -/
theorem mem_chase_iff (visited : List Identity) (distinct : visited.Nodup)
    (pending : List Identity) (g : Generator σ) (e : Identity) :
    e ∈ (g.chase env store visited distinct pending).1.map Visit.identity ↔
      e ∉ visited ∧ (e ∈ pending ∨
        ∃ visit ∈ (g.chase env store visited distinct pending).1, e ∈ visit.outcome.found) := by
  fun_induction chase env store visited distinct pending g with
  | case1 => simp
  | case2 visited distinct g identity rest hseen ih =>
    rw [ih, List.mem_cons]
    constructor
    · rintro ⟨hnew, hfrom⟩
      exact ⟨hnew, hfrom.imp_left .inr⟩
    · rintro ⟨hnew, (rfl | hrest) | hfound⟩
      · exact absurd hseen hnew
      · exact ⟨hnew, .inl hrest⟩
      · exact ⟨hnew, .inr hfound⟩
  | case3 visited distinct g identity rest hnew outcome next htake visits after hchase ih =>
    simp only [hchase] at ih
    simp only [List.map_cons, List.mem_cons, exists_eq_or_imp]
    by_cases he : e = identity
    · subst he
      simpa using hnew
    · simp only [he, false_or, ih, List.mem_cons, List.mem_append, or_assoc]

/-- No library is taken up twice. -/
theorem chase_nodup (visited : List Identity) (distinct : visited.Nodup)
    (pending : List Identity) (g : Generator σ) :
    ((g.chase env store visited distinct pending).1.map Visit.identity).Nodup := by
  fun_induction chase env store visited distinct pending g with
  | case1 => exact .nil
  | case2 visited distinct g identity rest hseen ih => exact ih
  | case3 visited distinct g identity rest hnew outcome next htake visits after hchase ih =>
    have hlater := mem_chase_iff env store (identity :: visited)
      (List.nodup_cons.mpr ⟨hnew, distinct⟩) (rest ++ outcome.found) next identity
    rw [hchase] at ih hlater
    refine List.nodup_cons.mpr ⟨fun hagain => ?_, ih⟩
    exact (hlater.mp hagain).1 List.mem_cons_self

/-- The chase of a request, which counts the library asked for as visited. -/
def chaseFrom (root : Identity) (pending : List Identity) (g : Generator σ) :
    List Visit × Generator σ :=
  g.chase env store [root] (List.nodup_singleton root) pending

section ChaseFrom

variable {env : Environment σ} {store : Store σ} {root : Identity} {pending : List Identity}
  {g : Generator σ} {r : List Visit × Generator σ} (h : r = g.chaseFrom env store root pending)

include h

theorem Taken.of_chaseFrom : Taken env store g r.1 r.2 := by
  rw [h]
  exact chase_taken env store _ _ pending g

theorem mem_chaseFrom_iff {e : Identity} :
    e ∈ r.1.map Visit.identity ↔
      e ≠ root ∧ (e ∈ pending ∨ ∃ visit ∈ r.1, e ∈ visit.outcome.found) := by
  rw [h, chaseFrom, mem_chase_iff, List.mem_singleton]

theorem nodup_chaseFrom : (r.1.map Visit.identity).Nodup := by
  rw [h]
  exact chase_nodup env store _ _ pending g

end ChaseFrom

/-- The events of taking libraries up one after the other. -/
def visitEvents : List Visit → Generator σ → List Event
  | [], _ => []
  | visit :: rest, g =>
    g.takeUpEvents env store visit.identity ++
      visitEvents rest (g.takeUp env store visit.identity).2

/-! ## A request -/

/-- The events of a request. -/
def serveEvents (designator : Designator) (base : Option Path)
    (g : Generator σ) : List Event :=
  let (store, g) := g.openStore env
  match env.locate g.world designator base with
  | .error _ => []
  | .ok located =>
    g.wrapperEvents env store located ++
      match g.ensureWrapper env store located with
      | (.error _, _) => []
      | (.ok (wrapper, externals), g) =>
        let (visits, after) := g.chaseFrom env store located.library.identity externals
        visitEvents env store visits g ++ after.friendlyEvents store located.library wrapper

/-- The ways a request can end, once its store is open. -/
inductive ServeStep (designator : Designator) (base : Option Path) (g : Generator σ) :
    List Event → Served σ → Prop
  | unlocated {e : RequestError} (hlocate : env.locate g.world designator base = .error e) :
      ServeStep designator base g [] ⟨.failed e, [], g⟩
  | failed {located : Located} {events : List Event} {e : RequestError} {after : Generator σ}
      (hlocate : env.locate g.world designator base = .ok located)
      (hwrapper : WrapperStep env store located g events (.error e, after)) :
      ServeStep designator base g events ⟨.failed e, [], after⟩
  | finished {located : Located} {events more : List Event} {wrapper : Module}
      {externals : List Identity} {between : Generator σ} {chased : List Visit × Generator σ}
      {r : Except RequestError (Option Module) × Generator σ}
      (hlocate : env.locate g.world designator base = .ok located)
      (hwrapper : WrapperStep env store located g events (.ok (wrapper, externals), between))
      (hchase : chased = between.chaseFrom env store located.library.identity externals)
      (hfriendly : FriendlyStep store located.library wrapper chased.2 more r) :
      ServeStep designator base g (events ++ (visitEvents env store chased.1 between ++ more))
        ⟨.finished wrapper externals r.1, chased.1, r.2⟩

theorem request_answer (designator : Designator) (base : Option Path) (g : Generator σ) :
    (g.request env designator base).1 = (g.serve env designator base).root.answer :=
  rfl

theorem request_generator (designator : Designator) (base : Option Path) (g : Generator σ) :
    (g.request env designator base).2 = (g.serve env designator base).generator :=
  rfl

theorem serve_step (designator : Designator) (base : Option Path) (g : Generator σ) :
    ServeStep env (g.openStore env).1 designator base (g.openStore env).2
      (g.serveEvents env designator base) (g.serve env designator base) := by
  unfold serveEvents serve
  rcases g.openStore env with ⟨store, g⟩
  dsimp only
  rcases hlocate : env.locate g.world designator base with e | located
  · exact .unlocated hlocate
  · dsimp only
    have hwrapper := g.ensureWrapper_step env store located
    rcases hr : g.ensureWrapper env store located with ⟨e | ⟨wrapper, externals⟩, between⟩
    · rw [hr] at hwrapper
      simpa using ServeStep.failed hlocate hwrapper
    · rw [hr] at hwrapper
      dsimp only
      rw [finish_eq]
      exact .finished hlocate hwrapper rfl (ensureFriendly_step store located.library wrapper _)

end Generator

end Typelib
