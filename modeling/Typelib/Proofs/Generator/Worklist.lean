import Typelib.Proofs.Generator.Shelf

/-!
# The chase as a loop over a worklist

A chase takes the first of the pending libraries, passes it over if it was visited, and otherwise
takes it up and appends what it refers to.  `Worklist.next?` is one iteration of this loop and
`Worklist.after` a number of them.  The list can grow faster than it is worked off and may hold a
library more than once; still the loop ends, after one iteration for each library that was ever
pending (`Worklist.after_chase`).  What every iteration preserves (`Worklist.Sound`) says where the
libraries come from that are taken up: `Generator.chase_ends` puts this together.
-/

namespace Typelib

universe u

variable {σ : Type u}

/-- Whether both modules of a library could be made. -/
def Outcome.isComplete : Outcome → Bool
  | complete .. => true
  | failed _ | wrapperOnly .. => false

/-- Libraries are found by a library that is complete, among its externals. -/
theorem Outcome.mem_found {outcome : Outcome} {e : Identity} :
    e ∈ outcome.found ↔
      ∃ wrapper externals friendly, outcome = .complete wrapper externals friendly ∧
        e ∈ externals := by
  cases outcome <;> simp [found]

/-- Where the loop of a chase stands. -/
structure Worklist (σ : Type u) where
  /-- The libraries that are passed over, the latest first. -/
  visited : List Identity
  /-- The libraries to come, the next one first. -/
  pending : List Identity
  /-- The libraries that were taken up, in order. -/
  visits : List Visit
  generator : Generator σ

/-- One more library can be taken up after others. -/
theorem Generator.Taken.snoc {env : Environment σ} {store : Store σ} {g after : Generator σ}
    {visits : List Visit} {identity : Identity} (h : g.Taken env store visits after) :
    g.Taken env store (visits ++ [⟨identity, (after.takeUp env store identity).1⟩])
      (after.takeUp env store identity).2 := by
  induction h with
  | nil => exact .cons .nil
  | cons _ ih => exact .cons ih

namespace Worklist

variable (env : Environment σ) (store : Store σ)

/-- The loop before its first iteration. -/
def start (root : Identity) (initial : List Identity) (g : Generator σ) : Worklist σ :=
  ⟨[root], initial, [], g⟩

/-- The loop one iteration later; it is over when nothing is pending. -/
def next? (w : Worklist σ) : Option (Worklist σ) :=
  match w.pending with
  | [] => none
  | identity :: rest =>
    if identity ∈ w.visited then some { w with pending := rest }
    else
      let (outcome, g) := w.generator.takeUp env store identity
      some ⟨identity :: w.visited, rest ++ outcome.found, w.visits ++ [⟨identity, outcome⟩], g⟩

/-- The loop a number of iterations later, unless it is over by then. -/
def after : Nat → Worklist σ → Option (Worklist σ)
  | 0, w => some w
  | n + 1, w => (w.next? env store).bind (after n)

/-! ## The loop ends -/

/-- The loop is over after one iteration for every library that is pending at some time, and has
done what the chase does. -/
theorem after_chase (visited : List Identity) (distinct : visited.Nodup) (pending : List Identity)
    (g : Generator σ) (before : List Visit) :
    let chased := g.chase env store visited distinct pending
    ∃ all, after env store
        (pending.length + (chased.1.flatMap fun visit => visit.outcome.found).length)
        ⟨visited, pending, before, g⟩ = some ⟨all, [], before ++ chased.1, chased.2⟩ := by
  fun_induction Generator.chase env store visited distinct pending g generalizing before with
  | case1 visited => exact ⟨visited, by simp [after]⟩
  | case2 visited distinct g identity rest hseen ih =>
    obtain ⟨all, hall⟩ := ih before
    refine ⟨all, ?_⟩
    rw [List.length_cons, Nat.add_right_comm, after, next?]
    simpa only [hseen, if_true, Option.bind_some] using hall
  | case3 visited distinct g identity rest hnew outcome next htake visits final hchase ih =>
    obtain ⟨all, hall⟩ := ih (before ++ [⟨identity, outcome⟩])
    refine ⟨all, ?_⟩
    simp only [hchase, List.length_append, List.append_assoc, List.singleton_append] at hall
    rw [List.length_cons, List.flatMap_cons, List.length_append, Nat.add_right_comm, after, next?]
    simpa only [hnew, if_false, htake, Option.bind_some, Nat.add_assoc] using hall

/-! ## What every iteration preserves -/

/-- A loop that set out from a root, initial libraries and a generator. -/
structure Sound (root : Identity) (initial : List Identity) (g : Generator σ) (w : Worklist σ) :
    Prop where
  distinct : w.visited.Nodup
  visited : w.visited = (w.visits.map Visit.identity).reverse ++ [root]
  taken : g.Taken env store w.visits w.generator
  pending : ∀ e ∈ w.pending, e ∈ initial ∨ ∃ visit ∈ w.visits, e ∈ visit.outcome.found
  visits : ∀ before visit later, w.visits = before ++ visit :: later →
    visit.identity ∈ initial ∨ ∃ earlier ∈ before, visit.identity ∈ earlier.outcome.found

namespace Sound

variable {env : Environment σ} {store : Store σ} {root : Identity} {initial : List Identity}
  {g : Generator σ} {w w' : Worklist σ}

theorem start : Sound env store root initial g (.start root initial g) where
  distinct := List.nodup_singleton root
  visited := rfl
  taken := .nil
  pending _ he := .inl he
  visits before visit later h := by simp [Worklist.start] at h

/-- A library that is pending again, or was visited before, can be passed over. -/
theorem pass (h : Sound env store root initial g w) {identity : Identity} {rest : List Identity}
    (hpending : w.pending = identity :: rest) :
    Sound env store root initial g { w with pending := rest } where
  distinct := h.distinct
  visited := h.visited
  taken := h.taken
  pending e he := h.pending e (hpending ▸ List.mem_cons_of_mem _ he)
  visits := h.visits

/-- A pending library that was not visited can be taken up. -/
theorem takeUp (h : Sound env store root initial g w) {identity : Identity}
    {rest : List Identity} (hpending : w.pending = identity :: rest)
    (hnew : identity ∉ w.visited) :
    let taken := w.generator.takeUp env store identity
    Sound env store root initial g
      ⟨identity :: w.visited, rest ++ taken.1.found, w.visits ++ [⟨identity, taken.1⟩],
        taken.2⟩ := by
  intro taken
  have horigin : ∀ e ∈ identity :: rest,
      e ∈ initial ∨ ∃ visit ∈ w.visits, e ∈ visit.outcome.found := hpending ▸ h.pending
  refine ⟨List.nodup_cons.mpr ⟨hnew, h.distinct⟩, by simp [h.visited], h.taken.snoc, ?_, ?_⟩
  · intro e he
    rcases List.mem_append.mp he with hrest | hfound
    · refine (horigin e (List.mem_cons_of_mem _ hrest)).imp_right ?_
      rintro ⟨visit, hvisit, hfound⟩
      exact ⟨visit, List.mem_append_left _ hvisit, hfound⟩
    · exact .inr ⟨_, List.mem_append_right _ (List.mem_singleton_self _), hfound⟩
  · intro before visit later hvisits
    rcases List.eq_nil_or_concat later with rfl | ⟨between, last, rfl⟩
    · obtain ⟨rfl, hvisit⟩ := List.append_inj' hvisits rfl
      cases hvisit
      exact horigin identity List.mem_cons_self
    · refine h.visits before visit between ?_
      rw [List.concat_eq_append, ← List.cons_append, ← List.append_assoc] at hvisits
      exact (List.append_inj' hvisits rfl).1

/-- One iteration. -/
theorem next (h : Sound env store root initial g w) (hnext : w.next? env store = some w') :
    Sound env store root initial g w' := by
  unfold next? at hnext
  split at hnext
  · cases hnext
  · rename_i identity rest hpending
    split at hnext
    · cases hnext
      exact h.pass hpending
    · rename_i hnew
      cases hnext
      exact h.takeUp hpending hnew

/-- Any number of iterations. -/
theorem after {n : Nat} (h : Sound env store root initial g w)
    (hafter : w.after env store n = some w') : Sound env store root initial g w' := by
  induction n generalizing w with
  | zero =>
    cases hafter
    exact h
  | succ n ih =>
    obtain ⟨between, hnext, hafter⟩ := Option.bind_eq_some_iff.mp hafter
    exact ih (h.next hnext) hafter

theorem nodup_visits (h : Sound env store root initial g w) :
    (w.visits.map Visit.identity).Nodup ∧ root ∉ w.visits.map Visit.identity := by
  have hdistinct := h.distinct
  rw [h.visited, List.nodup_append', List.nodup_reverse] at hdistinct
  exact ⟨hdistinct.1, fun hroot =>
    hdistinct.2.2 (List.mem_reverse.mpr hroot) (List.mem_singleton_self root)⟩

end Sound

end Worklist

namespace Generator

variable {env : Environment σ} {store : Store σ} {g : Generator σ}

/-- A library that is complete was located under its own identity when it was taken up. -/
theorem Taken.located {after : Generator σ} {visits : List Visit}
    (h : g.Taken env store visits after) {visit : Visit} (hvisit : visit ∈ visits)
    (hcomplete : visit.outcome.isComplete) :
    ∃ world located, env.locate world (.exact visit.identity) none = .ok located ∧
      located.library.identity = visit.identity := by
  induction h with
  | nil => cases hvisit
  | @cons g after identity visits hrest ih =>
    rcases List.mem_cons.mp hvisit with rfl | hvisit
    · have hstep := takeUp_step env store identity g
      generalize takeUpEvents env store identity g = events at hstep
      generalize g.takeUp env store identity = r at hstep hcomplete
      cases hstep with
      | unlocated | mismatch | failed => cases hcomplete
      | finished hlocate hidentity => exact ⟨_, _, hlocate, hidentity⟩
    · exact ih hvisit

/-- If few libraries can be loaded, few are completed. -/
theorem Taken.length_complete_le {after : Generator σ} {visits : List Visit}
    (h : g.Taken env store visits after) (hdistinct : (visits.map Visit.identity).Nodup)
    {loadable : Finset Identity}
    (hloadable : ∀ world i located, env.locate world (.exact i) none = .ok located →
      located.library.identity = i → i ∈ loadable) :
    (visits.filter fun visit => visit.outcome.isComplete).length ≤ loadable.card := by
  have hcomplete := hdistinct.sublist
    ((List.filter_sublist (p := fun visit => visit.outcome.isComplete)).map Visit.identity)
  rw [← List.length_map (f := Visit.identity), ← List.toFinset_card_of_nodup hcomplete]
  refine Finset.card_le_card fun i hi => ?_
  obtain ⟨visit, hvisit, rfl⟩ := List.mem_map.mp (List.mem_toFinset.mp hi)
  obtain ⟨hvisit, hcomplete⟩ := List.mem_filter.mp hvisit
  obtain ⟨world, located, hlocate, hidentity⟩ := h.located hvisit hcomplete
  exact hloadable world _ located hlocate hidentity

/-- The loop of a chase ends, whatever the environment and the store do: after one iteration for
every library that is pending at some time, with what the chase answers.  It takes up no library
twice, and never the one asked for; a library that it takes up was pending from the start or is
among the externals of one that was completed before.  No more are
completed than can be loaded. -/
theorem chase_ends (env : Environment σ) (store : Store σ) (root : Identity)
    (initial : List Identity) (g : Generator σ) :
    let chased := g.chaseFrom env store root initial
    let iterations :=
      initial.length + (chased.1.flatMap fun visit => visit.outcome.found).length
    (∃ last, (Worklist.start root initial g).after env store iterations = some last ∧
      last.next? env store = none ∧ last.visits = chased.1 ∧ last.generator = chased.2) ∧
    g.Taken env store chased.1 chased.2 ∧
    (chased.1.map Visit.identity).Nodup ∧ root ∉ chased.1.map Visit.identity ∧
    (∀ before visit later, chased.1 = before ++ visit :: later →
      visit.identity ∈ initial ∨ ∃ earlier ∈ before, ∃ wrapper externals friendly,
        earlier.outcome = .complete wrapper externals friendly ∧ visit.identity ∈ externals) ∧
    ∀ loadable : Finset Identity,
      (∀ world i located, env.locate world (.exact i) none = .ok located →
        located.library.identity = i → i ∈ loadable) →
      (chased.1.filter fun visit => visit.outcome.isComplete).length ≤ loadable.card := by
  intro chased iterations
  obtain ⟨all, hlast⟩ : ∃ all, (Worklist.start root initial g).after env store iterations =
      some ⟨all, [], chased.1, chased.2⟩ :=
    Worklist.after_chase env store [root] (List.nodup_singleton root) initial g []
  have hsound := Worklist.Sound.start.after hlast
  obtain ⟨hdistinct, hroot⟩ := hsound.nodup_visits
  refine ⟨⟨_, hlast, rfl, rfl, rfl⟩, hsound.taken, hdistinct, hroot, ?_,
    fun loadable => hsound.taken.length_complete_le hdistinct⟩
  intro before visit later hvisits
  simpa only [Outcome.mem_found] using hsound.visits before visit later hvisits

/-- Two libraries that refer to each other, pending more than once and with one that is missing:
the loop ends, and only the other one has been taken up, once. -/
theorem mutual_ends :
    let a : Identity := ⟨⟨0xa⟩, 1, 0, 0⟩
    let b : Identity := ⟨⟨0xb⟩, 1, 0, 0⟩
    let missing : Identity := ⟨⟨0xc⟩, 1, 0, 0⟩
    let g := Shelf.fresh [Shelf.referring none a b, Shelf.referring none b a]
    ∃ iterations last, (Worklist.start a [b, a, missing, b] g).after Shelf.environment Shelf.store
        iterations = some last ∧
      last.next? Shelf.environment Shelf.store = none ∧
      (last.visits.map Visit.identity).count b = 1 ∧ a ∉ last.visits.map Visit.identity := by
  intro a b missing g
  obtain ⟨⟨last, hlast, hover, hvisits, -⟩, -, hdistinct, hroot, -⟩ :=
    chase_ends Shelf.environment Shelf.store a [b, a, missing, b] g
  have hother : b ≠ a := by decide
  refine ⟨_, last, hlast, hover, ?_, hvisits ▸ hroot⟩
  rw [hvisits]
  exact List.count_eq_one_of_mem hdistinct
    ((mem_chaseFrom_iff rfl).mpr ⟨hother, .inl List.mem_cons_self⟩)

end Generator

end Typelib
