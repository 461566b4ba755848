import Typelib.Proofs.Generator.Residence

/-!
# The history of a generator

Between its requests a generator can be given another destination, and the files and stores
around it can change in any way; the `Action`s are these and the requests.  What happens in a
sequence of actions is its `history` of events.

A `Stretch` is a part of a history that respects wrappers: the resident ones stay as they are and
are not worked on, those that are generated become resident, and no friendly module goes by the
name of a wrapper; and the counters of the generator count its events.  Every step of a request is
a stretch, and stretches can be put end to end, so a whole history is one (`history_stretch`).
`wrapper_permanent` draws the conclusion.
-/

namespace Typelib

universe u

variable {σ : Type u}

namespace Generator

/-! ## Stretches -/

/-- The counters have gone up by the numbers of events of the three kinds. -/
structure Counted (before : Stats) (events : List Event) (after : Stats) : Prop where
  parses : after.parses = before.parses + events.countP Event.isParse
  wrappers : after.wrappersGenerated =
    before.wrappersGenerated + events.countP Event.isGeneration
  friendly : after.friendlyGenerated = before.friendlyGenerated + events.countP Event.isAlias

theorem Counted.append {before between after : Stats} {events more : List Event}
    (h : Counted before events between) (h' : Counted between more after) :
    Counted before (events ++ more) after where
  parses := by rw [h'.parses, h.parses, List.countP_append, Nat.add_assoc]
  wrappers := by rw [h'.wrappers, h.wrappers, List.countP_append, Nat.add_assoc]
  friendly := by rw [h'.friendly, h.friendly, List.countP_append, Nat.add_assoc]

/-- A part of a history, with the generators before and after it. -/
structure Stretch (g : Generator σ) (events : List Event) (after : Generator σ) : Prop where
  /-- A resident wrapper stays as it is. -/
  resident : ∀ {i : Identity} {m}, g.resident.get? i.wrapperName = some m →
    after.resident.get? i.wrapperName = some m
  /-- A library with a resident wrapper is not worked on. -/
  idle : ∀ {i : Identity} {m}, g.resident.get? i.wrapperName = some m →
    ∀ event ∈ events, ¬event.IsWorkOn i
  /-- A wrapper that is generated becomes resident. -/
  settled : ∀ {i : Identity}, ∀ event ∈ events, event.Generates i → after.Made i
  /-- A library is not worked on after its wrapper has been generated. -/
  once : ∀ i : Identity, events.Pairwise fun event later => event.Generates i → ¬later.IsWorkOn i
  /-- Friendly modules do not go by the names of wrappers. -/
  apart : ∀ {library name}, .aliased library name ∈ events → ∀ i : Identity, name ≠ i.wrapperName
  counted : Counted g.stats events after.stats

/-- A change that concerns neither the resident modules nor what has been generated is a stretch
without events. -/
theorem Stretch.of_idle {g after : Generator σ} (h : after.resident = g.resident)
    (hcounted : Counted g.stats [] after.stats) : Stretch g [] after where
  resident hm := by rw [h]; exact hm
  idle _ _ h := by cases h
  settled _ h := by cases h
  once _ := .nil
  apart h := by cases h
  counted := hcounted

theorem Stretch.refl (g : Generator σ) : Stretch g [] g := .of_idle rfl ⟨rfl, rfl, rfl⟩

theorem Stretch.append {g between after : Generator σ} {events more : List Event}
    (h : Stretch g events between) (h' : Stretch between more after) :
    Stretch g (events ++ more) after where
  resident hm := h'.resident (h.resident hm)
  idle hm event hevent := by
    rcases List.mem_append.mp hevent with hfirst | hsecond
    · exact h.idle hm event hfirst
    · exact h'.idle (h.resident hm) event hsecond
  settled event hevent hgenerates := by
    rcases List.mem_append.mp hevent with hfirst | hsecond
    · obtain ⟨m, hm⟩ := h.settled event hfirst hgenerates
      exact ⟨m, h'.resident hm⟩
    · exact h'.settled event hsecond hgenerates
  once i := by
    refine List.pairwise_append.mpr ⟨h.once i, h'.once i, ?_⟩
    intro event hevent later hlater hgenerates
    obtain ⟨m, hm⟩ := h.settled event hevent hgenerates
    exact h'.idle hm later hlater
  apart haliased := by
    rcases List.mem_append.mp haliased with hfirst | hsecond
    · exact h.apart hfirst
    · exact h'.apart hsecond
  counted := h.counted.append h'.counted

/-! ## The steps of a request are stretches -/

section Steps

variable {env : Environment σ} {store : Store σ} {located : Located} {library : Library}
  {wrapper : Module} {identity : Identity} {events : List Event} {g : Generator σ}

/-- Work on one library whose wrapper is not resident. -/
theorem Stretch.of_work {after : Generator σ} (hmoves : Moves store g after)
    (hstore : store.Named) (hnew : g.resident.get? identity.wrapperName = none)
    (hwork : ∀ event ∈ events, event.IsWorkOn identity)
    (hsettled : ∀ event ∈ events, event.Generates identity → after.Made identity)
    (honce : events.Pairwise fun event _ => ¬event.Generates identity)
    (hcounted : Counted g.stats events after.stats) : Stretch g events after where
  resident hm := hmoves.resident_wrapper hstore hm
  idle {i m} hm event hevent hi := by
    have hother : i ≠ identity := by
      rintro rfl
      rw [hnew] at hm
      cases hm
    exact hother (hi.unique (hwork event hevent))
  settled {i} event hevent hgenerates := by
    obtain rfl := hgenerates.isWorkOn.unique (hwork event hevent)
    exact hsettled event hevent hgenerates
  once i := by
    refine honce.imp_of_mem fun {event later} hevent _ hfirst hgenerates => ?_
    obtain rfl := hgenerates.isWorkOn.unique (hwork event hevent)
    exact absurd hgenerates hfirst
  apart haliased := False.elim (hwork _ haliased)
  counted := hcounted

theorem WrapperStep.stretch {r : Except RequestError (Module × List Identity) × Generator σ}
    (hstore : store.Named) (h : WrapperStep env store located g events r) :
    Stretch g events r.2 := by
  have hmoves := h.moves
  cases h with
  | resident hfound => exact .of_idle rfl ⟨rfl, rfl, rfl⟩
  | stored hnew hfound =>
    exact .of_work hmoves hstore hnew (by simp) (by simp) .nil ⟨rfl, rfl, rfl⟩
  | corrupt hnew habsent hread =>
    exact .of_work hmoves hstore hnew (by simp [Event.IsWorkOn]) (by simp [Event.Generates])
      (by simp) ⟨rfl, rfl, rfl⟩
  | refused hnew habsent hread hcommit =>
    exact .of_work hmoves hstore hnew (by simp [Event.IsWorkOn]) (by simp [Event.Generates])
      (by simp) ⟨rfl, rfl, rfl⟩
  | generated hnew habsent hread hcommit =>
    refine .of_work hmoves hstore hnew (by simp [Event.IsWorkOn]) (fun _ _ _ => ?_)
      (by simp [Event.Generates]) ⟨rfl, rfl, rfl⟩
    exact (made_keep (hstore.commit_name hcommit)).mpr (.inr rfl)

theorem FriendlyStep.stretch {r : Except RequestError (Option Module) × Generator σ}
    (hstore : store.Named) (h : FriendlyStep store library wrapper g events r) :
    Stretch g events r.2 := by
  have hquiet : ∀ event ∈ events, ∃ name, event = .aliased library name ∧
      library.friendlyName = .ok (some name) := by
    cases h <;> simp [*]
  exact
    { resident := h.moves.resident_wrapper hstore
      idle := fun _ event hevent hwork => by
        obtain ⟨name, rfl, -⟩ := hquiet event hevent
        exact hwork
      settled := fun event hevent hgenerates => by
        obtain ⟨name, rfl, -⟩ := hquiet event hevent
        exact False.elim hgenerates
      once := fun i => by
        refine List.pairwise_of_forall_mem_list fun event hevent later _ hgenerates => ?_
        obtain ⟨name, rfl, -⟩ := hquiet event hevent
        exact False.elim hgenerates
      apart := fun haliased => by
        obtain ⟨name, heq, hname⟩ := hquiet _ haliased
        cases heq
        exact friendlyName_ne_wrapperName hname
      counted := by cases h <;> exact ⟨rfl, rfl, rfl⟩ }

theorem TakeUpStep.stretch {r : Outcome × Generator σ} (hstore : store.Named)
    (h : TakeUpStep env store identity g events r) : Stretch g events r.2 := by
  cases h with
  | unlocated hlocate => exact .refl g
  | mismatch hlocate hother => exact .refl g
  | failed hlocate hidentity hwrapper => exact hwrapper.stretch hstore
  | finished hlocate hidentity hwrapper hfriendly =>
    exact (hwrapper.stretch hstore).append (hfriendly.stretch hstore)

theorem Taken.stretch {visits : List Visit} {after : Generator σ} (hstore : store.Named)
    (h : Taken env store g visits after) : Stretch g (visitEvents env store visits g) after := by
  induction h with
  | nil => exact .refl _
  | cons h ih => exact ((takeUp_step env store _ _).stretch hstore).append ih

theorem ServeStep.stretch {designator : Designator} {base : Option Path} {served : Served σ}
    (hstore : store.Named) (h : ServeStep env store designator base g events served) :
    Stretch g events served.generator := by
  cases h with
  | unlocated hlocate => exact .refl g
  | failed hlocate hwrapper => exact hwrapper.stretch hstore
  | @finished located _ _ _ externals between _ _ hlocate hwrapper hchase hfriendly =>
    have hvisits := Taken.of_chaseFrom hchase
    exact (hwrapper.stretch hstore).append
      ((hvisits.stretch hstore).append (hfriendly.stretch hstore))

end Steps

/-! ## Histories -/

/-- What happens to a generator. -/
inductive Action (σ : Type u) where
  | request (env : Environment σ) (designator : Designator) (base : Option Path)
  | configure (directory : Option Path)
  /-- Files and stores change. -/
  | change (world : σ)

namespace Action

/-- The generator after an action. -/
def run : Action σ → Generator σ → Generator σ
  | request env designator base, g => (g.request env designator base).2
  | configure directory, g => g.configure directory
  | change world, g => { g with world }

/-- The events of an action. -/
def events : Action σ → Generator σ → List Event
  | request env designator base, g => g.serveEvents env designator base
  | configure _, _ | change _, _ => []

/-- The stores an action opens keep modules under their names. -/
def Named : Action σ → Prop
  | request env _ _ => ∀ directory world, (env.openStore directory world).1.Named
  | configure _ | change _ => True

end Action

/-- The generator after a sequence of actions. -/
def run (actions : List (Action σ)) (g : Generator σ) : Generator σ :=
  actions.foldl (fun g action => action.run g) g

/-- The events of a sequence of actions. -/
def history : List (Action σ) → Generator σ → List Event
  | [], _ => []
  | action :: rest, g => action.events g ++ history rest (action.run g)

/-- If the modules go into a given store, it keeps them under their names. -/
def KeepsNames (g : Generator σ) : Prop :=
  ∀ store, g.destination = .given store → store.Named

section Histories

variable {env : Environment σ} {g : Generator σ}

theorem openStore_destination : (g.openStore env).2.destination = g.destination := by
  unfold openStore
  split <;> rfl

theorem openStore_stats (env : Environment σ) (g : Generator σ) :
    (g.openStore env).2.stats = g.stats := by
  unfold openStore
  split <;> rfl

theorem openStore_stretch : Stretch g [] (g.openStore env).2 := by
  unfold openStore
  split
  · exact .refl g
  · exact .of_idle rfl ⟨rfl, rfl, rfl⟩

theorem openStore_named (henv : ∀ directory world, (env.openStore directory world).1.Named)
    (hg : g.KeepsNames) : (g.openStore env).1.Named := by
  unfold openStore
  split
  · rename_i store hgiven
    exact hg store hgiven
  · exact henv _ _

theorem serve_stretch (henv : ∀ directory world, (env.openStore directory world).1.Named)
    (hg : g.KeepsNames) (designator : Designator) (base : Option Path) :
    Stretch g (g.serveEvents env designator base) (g.serve env designator base).generator := by
  have hserve := serve_step env designator base g
  exact openStore_stretch.append (hserve.stretch (openStore_named henv hg))

theorem serve_destination (designator : Designator) (base : Option Path) :
    (g.serve env designator base).generator.destination = g.destination :=
  (serve_moves env designator base g).destination.trans openStore_destination

theorem Action.stretch {action : Action σ} (haction : action.Named) (hg : g.KeepsNames) :
    Stretch g (action.events g) (action.run g) := by
  cases action with
  | request env designator base => exact serve_stretch haction hg designator base
  | configure directory => exact .of_idle rfl ⟨rfl, rfl, rfl⟩
  | change world => exact .of_idle rfl ⟨rfl, rfl, rfl⟩

theorem Action.keepsNames {action : Action σ} (hg : g.KeepsNames) :
    (action.run g).KeepsNames := by
  intro store hgiven
  cases action with
  | request env designator base =>
    exact hg store ((serve_destination designator base).symm.trans hgiven)
  | configure directory => cases hgiven
  | change world => exact hg store hgiven

theorem run_keepsNames {actions : List (Action σ)} (hg : g.KeepsNames) :
    (run actions g).KeepsNames := by
  induction actions generalizing g with
  | nil => exact hg
  | cons action rest ih => exact ih (Action.keepsNames hg)

/-- A whole history is a stretch. -/
theorem history_stretch {actions : List (Action σ)} (hactions : ∀ action ∈ actions, action.Named)
    (hg : g.KeepsNames) : Stretch g (history actions g) (run actions g) := by
  induction actions generalizing g with
  | nil => exact .refl g
  | cons action rest ih =>
    have hfirst := Action.stretch (hactions action List.mem_cons_self) hg
    exact hfirst.append
      (ih (fun a ha => hactions a (List.mem_cons_of_mem _ ha)) (Action.keepsNames hg))

theorem run_request (env : Environment σ) (designator : Designator) (base : Option Path)
    (g : Generator σ) :
    run [.request env designator base] g = (g.serve env designator base).generator :=
  rfl

theorem run_change (world : σ) (g : Generator σ) :
    run [.change world] g = { g with world } :=
  rfl

theorem run_append (earlier later : List (Action σ)) (g : Generator σ) :
    run (earlier ++ later) g = run later (run earlier g) :=
  List.foldl_append

theorem Stretch.countP_generates {events : List Event} {after : Generator σ}
    (h : Stretch g events after) (i : Identity) :
    events.countP (fun event => event.Generates i) ≤ 1 := by
  -- two generations would be two events of which the later one works on the library
  have hpairs := (h.once i).sublist (List.filter_sublist (p := fun e => e.Generates i))
  rw [List.countP_eq_length_filter]
  rcases hevents : events.filter (fun event => event.Generates i) with _ | ⟨e, _ | ⟨e', rest⟩⟩
  · simp [hevents]
  · simp [hevents]
  · have he : e ∈ events.filter (fun event => event.Generates i) := by simp [hevents]
    have he' : e' ∈ events.filter (fun event => event.Generates i) := by simp [hevents]
    have hgenerates : e.Generates i := by simpa using (List.mem_filter.mp he).2
    have hgenerates' : e'.Generates i := by simpa using (List.mem_filter.mp he').2
    rw [hevents] at hpairs
    have hidle := List.rel_of_pairwise_cons hpairs List.mem_cons_self hgenerates
    exact absurd hgenerates'.isWorkOn hidle

/-- In whatever is done with a generator, the wrapper of a library is generated at most once, and
once it is resident, it stays as it is, the library is not worked on any more, and no friendly
module takes its name.  The counters bear out the history. -/
theorem wrapper_permanent (actions : List (Action σ)) (g : Generator σ)
    (hactions : ∀ action ∈ actions, action.Named) (hg : g.KeepsNames) (i : Identity) :
    (history actions g).countP (fun event => event.Generates i) ≤ 1 ∧
    (∀ earlier later m, actions = earlier ++ later →
      (run earlier g).resident.get? i.wrapperName = some m →
      (run actions g).resident.get? i.wrapperName = some m ∧
      ∀ event ∈ history later (run earlier g), ¬event.IsWorkOn i ∧
        ∀ library name, event = .aliased library name → name ≠ i.wrapperName) ∧
    Counted g.stats (history actions g) (run actions g).stats := by
  have hwhole := history_stretch hactions hg
  refine ⟨hwhole.countP_generates i, ?_, hwhole.counted⟩
  rintro earlier later m rfl hm
  have hlater : Stretch (run earlier g) (history later (run earlier g))
      (run later (run earlier g)) :=
    history_stretch (fun a ha => hactions a (List.mem_append_right _ ha)) (run_keepsNames hg)
  rw [run_append]
  refine ⟨hlater.resident hm, fun event hevent => ⟨hlater.idle hm event hevent, ?_⟩⟩
  rintro library name rfl
  exact hlater.apart hevent i

/-- A library that is loaded already, with modules in memory and later in a directory. -/
theorem wrapper_permanent_loaded :
    let library : Library := ⟨.bare ⟨⟨1⟩, 1, 0, 0⟩, none⟩
    let ask : Action World := .request (.ofLoader ⟨.empty, []⟩ .standard 0) (.loaded library) none
    let g : Generator World := .start ⟨⟨.empty, none⟩, [.empty]⟩ (.configured none)
    let later : List (Action World) :=
      [.configure (some ⟨"/gen"⟩), .change ⟨⟨.empty, none⟩, []⟩, ask]
    ∃ m, (run [ask] g).resident.get? library.identity.wrapperName = some m ∧
      (run (ask :: later) g).resident.get? library.identity.wrapperName = some m ∧
      ∀ event ∈ history later (run [ask] g), ¬event.IsWorkOn library.identity := by
  intro library ask g later
  have hnamed : ∀ action ∈ ask :: later, action.Named := by
    simp only [later, List.forall_mem_cons]
    exact ⟨World.openStore_named 0, trivial, trivial, World.openStore_named 0, nofun⟩
  have hg : g.KeepsNames := nofun
  -- the first request generates the wrapper, since its commit succeeds
  have hserve := serve_step (.ofLoader ⟨.empty, []⟩ .standard 0) (.loaded library) none g
  have hopen : g.openStore (.ofLoader ⟨.empty, []⟩ .standard 0) = (World.memory 0, g) := rfl
  rw [hopen] at hserve
  have hlocate : (Environment.ofLoader ⟨.empty, []⟩ .standard 0).locate g.world (.loaded library)
      none = .ok ⟨library, none⟩ := rfl
  have hread : (Environment.ofLoader ⟨.empty, []⟩ .standard 0).items library = .ok .empty := rfl
  have hroot := hserve.succeeds hlocate hread
    (World.memory_commits 0 library.identity.wrapperName_isIdentifier) trivial
  obtain ⟨m, hm⟩ := hserve.made (World.memory_named 0) hlocate hroot
  rw [← run_request] at hm
  have hlasting := (wrapper_permanent (ask :: later) g hnamed hg library.identity).2.1
    [ask] later m rfl hm
  exact ⟨m, hm, hlasting.1, fun event hevent => (hlasting.2 event hevent).1⟩

end Histories

end Generator

end Typelib
