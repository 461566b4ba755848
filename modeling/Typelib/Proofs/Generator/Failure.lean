import Typelib.Proofs.Generator.Following
import Typelib.Proofs.Generator.Healing

/-!
# What a request that fails leaves behind

A request fails at one of two points.  Without a wrapper for the library asked for, it leaves the
resident and the stored modules as they were, and the counters, too, except that items may have been
read.  With a wrapper, only the friendly module is missing: the step that fails changes neither tier
(`Untouched`), so what was committed on the way is `Kept`, resident and stored, unless a later
commit of the same request has taken its name (`Lasting`).  `request_failed` puts this together for
a store that may refuse any commit, as long as it then holds what it held before; the stores that a
`World` opens are such (`World.openStore_reliable`).
-/

namespace Typelib

universe u

variable {σ : Type u}

/-- The module is the one that an event commits. -/
def Event.Commits (env : Environment σ) : Event → Module → Prop
  | generated library items, m => m.name = library.identity.wrapperName ∧
      ∃ source, m.text = env.wrapperText ⟨library, source⟩ items
  | aliased library name, m => m.name = name ∧
      m.text = friendlyText library.identity.wrapperName
  | corrupt _, _ | parsed _, _ => False

namespace RequestError

/-- The library was not found, or could not be loaded or read. -/
def IsUnread : RequestError → Prop
  | resolution _ | load _ | corrupt _ => True
  | collision _ | mismatch .. | persistence _ => False

/-- The store refused a commit. -/
def IsRefusal : RequestError → Prop
  | persistence _ => True
  | resolution _ | load _ | corrupt _ | collision _ | mismatch .. => False

/-- The name is in the way of a friendly module. -/
def IsCollision : RequestError → Prop
  | collision _ => True
  | resolution _ | load _ | corrupt _ | mismatch .. | persistence _ => False

end RequestError

namespace Generator

/-! ## Modules in both tiers -/

/-- A module is resident under a name and stored under it. -/
structure Kept (store : Store σ) (g : Generator σ) (name : ModuleName) (m : Module) : Prop where
  identifier : IsIdentifier name.member
  resident : g.resident.get? name = some m
  stored : store.load g.world name = .hit m

/-- The resident modules are the same, and so is what is stored under the names of modules. -/
structure Untouched (store : Store σ) (g after : Generator σ) : Prop where
  resident : after.resident = g.resident
  stored : ∀ {name : ModuleName}, IsIdentifier name.member →
    store.load after.world name = store.load g.world name

section Kept

variable {store : Store σ} {worlds : σ → Prop} {name other : ModuleName} {text : String}
  {m r : Module} {world : σ} {e : StoreError} {g after : Generator σ}

theorem Untouched.of_eq (hresident : after.resident = g.resident) (hworld : after.world = g.world) :
    Untouched store g after :=
  ⟨hresident, fun _ => by rw [hworld]⟩

/-- A commit that is refused changes neither tier. -/
theorem Untouched.of_refused (hatomic : store.Atomic worlds) (hworld : worlds g.world)
    (hname : IsIdentifier name.member)
    (hcommit : store.commit g.world name text = (.error e, world))
    (hresident : after.resident = g.resident) (hafter : after.world = world) :
    Untouched store g after :=
  ⟨hresident, fun hother => by rw [hafter, hatomic.load_eq hworld hname hother hcommit]⟩

theorem Kept.untouched (h : Kept store g name m) (hafter : Untouched store g after) :
    Kept store after name m where
  identifier := h.identifier
  resident := by rw [hafter.resident, h.resident]
  stored := by rw [hafter.stored h.identifier, h.stored]

/-- A module that becomes resident concerns no other name. -/
theorem Kept.keep (h : Kept store g name m) (hne : name ≠ r.name) :
    Kept store (g.keep r) name m where
  identifier := h.identifier
  resident := by rw [resident_keep, if_neg hne, h.resident]
  stored := h.stored

/-- Nor does one that is committed. -/
theorem Kept.commit (h : Kept store g name m) (hstore : store.Retentive worlds)
    (hworld : worlds g.world) (hother : IsIdentifier other.member)
    (hcommit : store.commit g.world other text = (.ok r, world)) (hne : name ≠ other) :
    Kept store ({ g with world }.keep r) name m := by
  have hstays := hstore.load_commit hworld hother h.identifier hne hcommit h.stored
  have hbetween : Kept store { g with world } name m := ⟨h.identifier, h.resident, hstays⟩
  exact hbetween.keep (by rw [hstore.named.commit_name hcommit]; exact hne)

theorem kept_of_commit (hstore : store.Retentive worlds) (hworld : worlds g.world)
    (hname : IsIdentifier name.member)
    (hcommit : store.commit g.world name text = (.ok m, world)) :
    Kept store ({ g with world }.keep m) name m where
  identifier := hname
  resident := by rw [resident_keep, if_pos (hstore.named.commit_name hcommit).symm]
  stored := hstore.found hworld hname hcommit

end Kept

/-! ## What commits leave -/

/-- What is kept stays so through some events until its name is taken by one, and what an event
commits is kept afterwards until its name is taken by another one. -/
structure Lasting (env : Environment σ) (store : Store σ) (g : Generator σ) (events : List Event)
    (after : Generator σ) : Prop where
  keeps : ∀ {name m}, Kept store g name m → (∀ event ∈ events, event.target? ≠ some name) →
    Kept store after name m
  leaves : ∀ {earlier event later name}, events = earlier ++ event :: later →
    event.target? = some name → (∀ other ∈ later, other.target? ≠ some name) →
    ∃ m, event.Commits env m ∧ Kept store after name m

section Lasting

variable {env : Environment σ} {store : Store σ} {worlds : σ → Prop} {name : ModuleName}
  {text : String} {m : Module} {world : σ} {event : Event} {events more : List Event}
  {g between after : Generator σ}

theorem Lasting.append (h : Lasting env store g events between)
    (h' : Lasting env store between more after) : Lasting env store g (events ++ more) after where
  keeps hm hfree := by
    obtain ⟨hfirst, hsecond⟩ := List.forall_mem_append.mp hfree
    exact h'.keeps (h.keeps hm hfirst) hsecond
  leaves {earlier event later name} heq htarget hfree := by
    rcases List.append_eq_append_iff.mp heq with ⟨middle, -, hmore⟩ | ⟨middle, hevents, hrest⟩
    · exact h'.leaves hmore htarget hfree
    · cases middle with
      | nil =>
        have hmore : more = [] ++ event :: later := hrest.symm
        exact h'.leaves hmore htarget hfree
      | cons first rest =>
        obtain ⟨rfl, rfl⟩ := List.cons.inj hrest
        obtain ⟨hfirst, hsecond⟩ := List.forall_mem_append.mp hfree
        obtain ⟨m, hcommits, hm⟩ := h.leaves hevents htarget hfirst
        exact ⟨m, hcommits, h'.keeps hm hsecond⟩

/-- Where neither tier changes, nothing is committed. -/
theorem Lasting.of_untouched (hafter : Untouched store g after)
    (hnone : ∀ event ∈ events, event.target? = none) : Lasting env store g events after where
  keeps hm _ := hm.untouched hafter
  leaves {earlier event later name} heq htarget _ := by
    have hevent : event ∈ events := by rw [heq]; exact List.mem_append_right _ List.mem_cons_self
    rw [hnone event hevent] at htarget
    cases htarget

/-- A stored module may become resident if nothing else is kept under its name. -/
theorem Lasting.of_fetch (hstore : store.Named) (hfound : store.load g.world name = .hit m)
    (hfree : ∀ r, ¬Kept store g name r) : Lasting env store g [] (g.countStored.keep m) where
  keeps {other r} hr _ := by
    have hne : other ≠ m.name := by
      rw [hstore.load_name hfound]
      rintro rfl
      exact hfree r hr
    have hcounted : Kept store g.countStored other r := hr.untouched (.of_eq rfl rfl)
    exact hcounted.keep hne
  leaves heq := by simp at heq

theorem Lasting.of_commit (hstore : store.Retentive worlds) (hworld : worlds g.world)
    (hname : IsIdentifier name.member)
    (hcommit : store.commit g.world name text = (.ok m, world))
    (htarget : event.target? = some name) (hcommits : event.Commits env m) :
    Lasting env store g [event] ({ g with world }.keep m) where
  keeps {other r} hr hfree := by
    refine hr.commit hstore hworld hname hcommit fun heq => ?_
    rw [heq] at hfree
    exact hfree event List.mem_cons_self htarget
  leaves {earlier event' later name'} heq htarget' _ := by
    obtain ⟨-, rfl, -⟩ : earlier = [] ∧ event = event' ∧ later = [] := by
      cases earlier with
      | nil => simpa using heq
      | cons first rest => simp at heq
    obtain rfl := Option.some.inj (htarget.symm.trans htarget')
    exact ⟨m, hcommits, kept_of_commit hstore hworld hname hcommit⟩

end Lasting

/-! ## The steps of a request -/

section Steps

variable {env : Environment σ} {store : Store σ} {worlds : σ → Prop} {located : Located}
  {library : Library} {wrapper : Module} {identity : Identity} {events : List Event}
  {g after : Generator σ} (hstore : store.Reliable worlds) (hworld : worlds g.world)

include hstore hworld

theorem WrapperStep.lasting {r : Except RequestError (Module × List Identity) × Generator σ}
    (h : WrapperStep env store located g events r) : Lasting env store g events r.2 := by
  have hname := located.library.identity.wrapperName_isIdentifier
  cases h with
  | resident hfound => exact .of_untouched (.of_eq rfl rfl) (List.forall_mem_nil _)
  | stored hnew hfound =>
    refine .of_fetch hstore.retentive.named hfound fun r hr => ?_
    have hresident := hr.resident
    rw [hnew] at hresident
    cases hresident
  | corrupt hnew habsent hread =>
    exact .of_untouched (.of_eq rfl rfl) (List.forall_mem_singleton.mpr rfl)
  | refused hnew habsent hread hcommit =>
    exact .of_untouched (.of_refused hstore.atomic hworld hname hcommit rfl rfl)
      (List.forall_mem_singleton.mpr rfl)
  | @generated items m world hnew habsent hread hcommit =>
    have hparsed : Lasting env store g [.parsed located.library] g.countParse :=
      .of_untouched (.of_eq rfl rfl) (List.forall_mem_singleton.mpr rfl)
    have hcommits : (Event.generated located.library items).Commits env m :=
      ⟨hstore.retentive.named.commit_name hcommit, located.source,
        hstore.faithful.text_eq hworld hname hcommit⟩
    have hcommitted : Lasting env store g.countParse [.generated located.library items]
        ({ g.countParse with world }.keep m) :=
      .of_commit hstore.retentive hworld hname hcommit rfl hcommits
    have hcounted : Lasting env store ({ g.countParse with world }.keep m) []
        ({ g.countParse with world }.keep m).countWrapper :=
      .of_untouched (.of_eq rfl rfl) (List.forall_mem_nil _)
    exact hparsed.append (hcommitted.append hcounted)

theorem FriendlyStep.lasting {r : Except RequestError (Option Module) × Generator σ}
    (h : FriendlyStep store library wrapper g events r)
    (hwrapper : wrapper.name = library.identity.wrapperName) :
    Lasting env store g events r.2 := by
  cases h with
  | collision hname => exact .of_untouched (.of_eq rfl rfl) (List.forall_mem_nil _)
  | nameless hname => exact .of_untouched (.of_eq rfl rfl) (List.forall_mem_nil _)
  | resident hname hfound htext =>
    exact .of_untouched (.of_eq rfl rfl) (List.forall_mem_nil _)
  | stored hname hstale hfound htext =>
    refine .of_fetch hstore.retentive.named hfound fun r hr => ?_
    -- what is kept under the name is what is found there, but the resident module is stale
    obtain rfl := Lookup.hit.inj (hr.stored.symm.trans hfound)
    exact hstale _ hr.resident htext
  | refused hname hstale habsent hcommit =>
    have hidentifier := friendlyName_isIdentifier hname
    exact .of_untouched (.of_refused hstore.atomic hworld hidentifier hcommit rfl rfl)
      (List.forall_mem_nil _)
  | @generated name m world hname hstale habsent hcommit =>
    have hidentifier := friendlyName_isIdentifier hname
    have hcommits : (Event.aliased library name).Commits env m := by
      refine ⟨hstore.retentive.named.commit_name hcommit, ?_⟩
      rw [← hwrapper]
      exact hstore.faithful.text_eq hworld hidentifier hcommit
    have hcommitted : Lasting env store g [.aliased library name] ({ g with world }.keep m) :=
      .of_commit hstore.retentive hworld hidentifier hcommit rfl hcommits
    have hcounted : Lasting env store ({ g with world }.keep m) []
        ({ g with world }.keep m).countFriendly :=
      .of_untouched (.of_eq rfl rfl) (List.forall_mem_nil _)
    exact hcommitted.append hcounted

theorem TakeUpStep.lasting {r : Outcome × Generator σ} (hown : g.OwnNames)
    (h : TakeUpStep env store identity g events r) : Lasting env store g events r.2 := by
  cases h with
  | unlocated hlocate => exact .of_untouched (.of_eq rfl rfl) (List.forall_mem_nil _)
  | mismatch hlocate hother => exact .of_untouched (.of_eq rfl rfl) (List.forall_mem_nil _)
  | failed hlocate hidentity hwrapper => exact hwrapper.lasting hstore hworld
  | finished hlocate hidentity hwrapper hfriendly =>
    have hbetween := hwrapper.moves.worlds_of_keeps hstore.retentive.keeps hworld
    have hname := (hwrapper.found hstore.retentive.named hown).2
    exact (hwrapper.lasting hstore hworld).append (hfriendly.lasting hstore hbetween hname)

theorem Taken.lasting {visits : List Visit} (hown : g.OwnNames)
    (h : Taken env store g visits after) :
    Lasting env store g (visitEvents env store visits g) after := by
  induction h with
  | nil => exact .of_untouched (.of_eq rfl rfl) (List.forall_mem_nil _)
  | @cons g after identity visits h ih =>
    have hstep := takeUp_step env store identity g
    have hnext := hstep.moves.worlds_of_keeps hstore.retentive.keeps hworld
    exact (hstep.lasting hstore hworld hown).append (ih hnext (hstep.moves.ownNames hown))

/-- Whether or not a request succeeds, what it has committed on the way stays in both tiers. -/
theorem ServeStep.lasting {designator : Designator} {base : Option Path} {served : Served σ}
    (hown : g.OwnNames) (h : ServeStep env store designator base g events served) :
    Lasting env store g events served.generator := by
  cases h with
  | unlocated hlocate => exact .of_untouched (.of_eq rfl rfl) (List.forall_mem_nil _)
  | failed hlocate hwrapper => exact hwrapper.lasting hstore hworld
  | @finished located _ _ wrapper externals between _ r hlocate hwrapper hchase hfriendly =>
    have hvisits := Taken.of_chaseFrom hchase
    have hname := (hwrapper.found hstore.retentive.named hown).2
    have hbetween := hwrapper.moves.worlds_of_keeps hstore.retentive.keeps hworld
    have hchased := hvisits.moves.worlds_of_keeps hstore.retentive.keeps hbetween
    have htaken := hvisits.lasting hstore hbetween (hwrapper.moves.ownNames hown)
    exact (hwrapper.lasting hstore hworld).append
      (htaken.append (hfriendly.lasting hstore hchased hname))

end Steps

/-! ## The step that fails -/

theorem locate_isUnread {env : Environment σ} {world : σ} {designator : Designator}
    {base : Option Path} {e : RequestError} (h : env.locate world designator base = .error e) :
    e.IsUnread := by
  unfold Environment.locate at h
  split at h
  · cases h
    trivial
  · split at h
    · cases h
      trivial
    · cases h

section Failing

variable {env : Environment σ} {store : Store σ} {worlds : σ → Prop} {located : Located}
  {library : Library} {wrapper : Module} {events : List Event} {g after : Generator σ}
  {e : RequestError} (hatomic : store.Atomic worlds) (hworld : worlds g.world)

include hatomic hworld

/-- A wrapper that is not come by leaves the tiers as they were, and the rest, too, if the items
could not be read. -/
theorem WrapperStep.untouched (h : WrapperStep env store located g events (.error e, after)) :
    Untouched store g after ∧
      (e.IsUnread ∧ after = g ∨ e.IsRefusal ∧ after.stats = g.countParse.stats) := by
  cases h with
  | corrupt hnew habsent hread => exact ⟨.of_eq rfl rfl, .inl ⟨trivial, rfl⟩⟩
  | refused hnew habsent hread hcommit =>
    have hname := located.library.identity.wrapperName_isIdentifier
    exact ⟨.of_refused hatomic hworld hname hcommit rfl rfl, .inr ⟨trivial, rfl⟩⟩

/-- So does a friendly module, for which nothing has been counted either. -/
theorem FriendlyStep.untouched {r : Except RequestError (Option Module) × Generator σ}
    (h : FriendlyStep store library wrapper g events r) (herror : r.1 = .error e) :
    Untouched store g r.2 ∧ r.2.stats = g.stats ∧ (e.IsCollision ∨ e.IsRefusal) := by
  cases h with
  | collision hname =>
    cases herror
    exact ⟨.of_eq rfl rfl, rfl, .inl trivial⟩
  | refused hname hstale habsent hcommit =>
    cases herror
    have hidentifier := friendlyName_isIdentifier hname
    exact ⟨.of_refused hatomic hworld hidentifier hcommit rfl rfl, rfl, .inr trivial⟩
  | nameless | resident | stored | generated => cases herror

end Failing

theorem FriendlyStep.of_collision {store : Store σ} {library : Library} {wrapper : Module}
    {events : List Event} {g : Generator σ} {c : NameCollision}
    {r : Except RequestError (Option Module) × Generator σ}
    (h : FriendlyStep store library wrapper g events r) (hname : library.friendlyName = .error c) :
    r.1 = .error (.collision c) := by
  cases h with
  | collision hcollision =>
    obtain rfl := Except.error.inj (hcollision.symm.trans hname)
    rfl
  | nameless hother | resident hother | stored hother | refused hother | generated hother =>
    rw [hname] at hother
    cases hother

theorem finished_eq_wrapperOnly {wrapper wrapper' : Module} {externals externals' : List Identity}
    {r : Except RequestError (Option Module)} {e : RequestError}
    (h : Outcome.finished wrapper externals r = .wrapperOnly wrapper' externals' e) :
    wrapper = wrapper' ∧ externals = externals' ∧ r = .error e := by
  rcases r with e' | friendly
  · cases h
    exact ⟨rfl, rfl, rfl⟩
  · cases h

/-- A name that is committed to twice is that of friendly modules. -/
theorem Stretch.aliased_twice {g after : Generator σ} {earlier later : List Event}
    {event other : Event} {name : ModuleName} (h : Stretch g (earlier ++ event :: later) after)
    (htarget : event.target? = some name) (hother : other ∈ later)
    (hagain : other.target? = some name) :
    event.isAlias ∧ ∃ library, other = .aliased library name := by
  have hevent : event ∈ earlier ++ event :: later :=
    List.mem_append_right _ List.mem_cons_self
  have hlater : other ∈ earlier ++ event :: later :=
    List.mem_append_right _ (List.mem_cons_of_mem _ hother)
  cases event with
  | corrupt library => cases htarget
  | parsed library => cases htarget
  | aliased library name' =>
    obtain rfl : name' = name := Option.some.inj htarget
    cases other with
    | corrupt library => cases hagain
    | parsed library => cases hagain
    | generated library' items =>
      exact absurd (Option.some.inj hagain).symm (h.apart hevent library'.identity)
    | aliased library' name'' => exact ⟨rfl, library', by rw [Option.some.inj hagain]⟩
  | generated library items =>
    obtain rfl : library.identity.wrapperName = name := Option.some.inj htarget
    cases other with
    | corrupt library => cases hagain
    | parsed library => cases hagain
    | generated library' items' =>
      -- the library would be worked on after its wrapper has been generated
      have hsame := Identity.wrapperName_injective (Option.some.inj hagain)
      have hpairs := (List.pairwise_append.mp (h.once library.identity)).2.1
      exact absurd hsame (List.rel_of_pairwise_cons hpairs hother rfl)
    | aliased library' name' =>
      exact absurd (Option.some.inj hagain) (h.apart hlater library.identity)

/-! ## Requests that fail -/

/-- The generator as it is when the request looks for the friendly module of its library. -/
def chased (env : Environment σ) (designator : Designator) (base : Option Path)
    (g : Generator σ) : Generator σ :=
  let (store, g) := g.openStore env
  match env.locate g.world designator base with
  | .error _ => g
  | .ok located =>
    match g.ensureWrapper env store located with
    | (.error _, g) => g
    | (.ok (_, externals), g) => (g.chaseFrom env store located.library.identity externals).2

/-- A request that fails before there is a wrapper leaves both tiers as they were when its store was
open. -/
structure FailsFirst (env : Environment σ) (designator : Designator) (base : Option Path)
    (g : Generator σ) (e : RequestError) : Prop where
  root : (g.serve env designator base).root = .failed e
  resident : (g.request env designator base).2.resident = g.resident
  stored : ∀ {name : ModuleName}, IsIdentifier name.member →
    (g.openStore env).1.load (g.request env designator base).2.world name =
      (g.openStore env).1.load (g.openStore env).2.world name
  /-- Nothing else has changed either, except that items have been read if their wrapper could not
  be committed. -/
  cause : (e.IsUnread ∧ (g.request env designator base).2 = (g.openStore env).2 ∧
      (g.request env designator base).2.stats = g.stats) ∨
    e.IsRefusal ∧ (g.request env designator base).2.stats = g.countParse.stats

/-- A request that fails when there is a wrapper, but no friendly module, leaves both tiers as it
found them when it looked for that module, and what it committed before is still there. -/
structure FailsLast (env : Environment σ) (designator : Designator) (base : Option Path)
    (g : Generator σ) (e : RequestError) (located : Located) (wrapper : Module)
    (externals : List Identity) : Prop where
  locate : env.locate (g.openStore env).2.world designator base = .ok located
  root : (g.serve env designator base).root = .wrapperOnly wrapper externals e
  cause : e.IsCollision ∨ e.IsRefusal
  resident : (g.request env designator base).2.resident.get? located.library.identity.wrapperName =
    some wrapper
  finish : (g.chased env designator base).finish (g.openStore env).1 located.library wrapper
    externals = (.wrapperOnly wrapper externals e, (g.request env designator base).2)
  untouched : Untouched (g.openStore env).1 (g.chased env designator base)
    (g.request env designator base).2
  stats : (g.request env designator base).2.stats = (g.chased env designator base).stats
  /-- What an event commits is resident and stored afterwards, unless it is a friendly module and a
  later one takes its name. -/
  kept : ∀ {earlier event later name},
    g.serveEvents env designator base = earlier ++ event :: later → event.target? = some name →
    (event.isAlias ∧ ∃ library, .aliased library name ∈ later) ∨
      ∃ m, event.Commits env m ∧ Kept (g.openStore env).1 (g.request env designator base).2 name m

section Requests

variable {env : Environment σ} {designator : Designator} {base : Option Path} {worlds : σ → Prop}
  {g : Generator σ} {e : RequestError}

/-- Where a request with a wrapper but without a friendly module ends. -/
theorem serve_chased {wrapper : Module} {externals : List Identity}
    (h : (g.serve env designator base).root = .wrapperOnly wrapper externals e) :
    ∃ located, env.locate (g.openStore env).2.world designator base = .ok located ∧
      (g.chased env designator base).finish (g.openStore env).1 located.library wrapper externals =
        (.wrapperOnly wrapper externals e, (g.request env designator base).2) := by
  unfold request chased
  unfold serve at h ⊢
  dsimp only at h ⊢
  rcases hlocate : env.locate (g.openStore env).2.world designator base with e' | located
  · rw [hlocate] at h
    cases h
  · rw [hlocate] at h
    dsimp only at h ⊢
    rcases hwrapper : (g.openStore env).2.ensureWrapper env (g.openStore env).1 located with
      ⟨e' | ⟨wrapper', externals'⟩, between⟩
    · rw [hwrapper] at h
      cases h
    · rw [hwrapper] at h
      dsimp only at h ⊢
      have hroot := h
      rw [finish_eq] at h
      obtain ⟨rfl, rfl, -⟩ := finished_eq_wrapperOnly h
      exact ⟨located, rfl, Prod.ext hroot rfl⟩

theorem chased_moves (env : Environment σ) (designator : Designator) (base : Option Path)
    (g : Generator σ) :
    Moves (g.openStore env).1 (g.openStore env).2 (g.chased env designator base) := by
  unfold chased
  dsimp only
  split
  · exact .refl
  · rename_i located hlocate
    have hwrapper := (g.openStore env).2.ensureWrapper_step env (g.openStore env).1 located
    split
    · rename_i e after hfailed
      rw [hfailed] at hwrapper
      exact hwrapper.moves
    · rename_i wrapper externals between hdone
      rw [hdone] at hwrapper
      exact hwrapper.moves.trans (Taken.of_chaseFrom rfl).moves

section Steps

variable {store : Store σ} {located : Located} {wrapper : Module} {externals : List Identity}
  {events : List Event} {served : Served σ}

theorem ServeStep.untouched (hatomic : store.Atomic worlds) (hworld : worlds g.world)
    (h : ServeStep env store designator base g events served) (hroot : served.root = .failed e) :
    Untouched store g served.generator ∧ (e.IsUnread ∧ served.generator = g ∨
      e.IsRefusal ∧ served.generator.stats = g.countParse.stats) := by
  cases h with
  | unlocated hlocate =>
    obtain rfl := Outcome.failed.inj hroot
    exact ⟨.of_eq rfl rfl, .inl ⟨locate_isUnread hlocate, rfl⟩⟩
  | failed hlocate hwrapper =>
    obtain rfl := Outcome.failed.inj hroot
    exact hwrapper.untouched hatomic hworld
  | @finished _ _ _ _ _ _ _ r =>
    obtain ⟨e' | friendly, after⟩ := r <;> cases hroot

/-- The wrapper of the library asked for stays resident when its friendly module fails. -/
theorem ServeStep.resident (hnamed : store.Named) (hown : g.OwnNames)
    (h : ServeStep env store designator base g events served)
    (hlocate : env.locate g.world designator base = .ok located)
    (hroot : served.root = .wrapperOnly wrapper externals e) :
    served.generator.resident.get? located.library.identity.wrapperName = some wrapper := by
  cases h with
  | unlocated hnone => cases hroot
  | failed hlocated hwrapper => cases hroot
  | @finished found _ _ _ _ between chased r hlocated hwrapper hchase hfriendly =>
    obtain rfl : found = located := Except.ok.inj (hlocated.symm.trans hlocate)
    obtain ⟨rfl, rfl, -⟩ := finished_eq_wrapperOnly hroot
    have hvisits := Taken.of_chaseFrom hchase
    have hresident := (hwrapper.found hnamed hown).1
    exact hfriendly.moves.resident_wrapper hnamed
      (hvisits.moves.resident_wrapper hnamed hresident)

/-- Once there is a wrapper, a request fails if the name is in the way. -/
theorem ServeStep.collides {c : NameCollision}
    (h : ServeStep env store designator base g events served)
    (hlocate : env.locate g.world designator base = .ok located)
    (hroot : ∀ e, served.root ≠ .failed e) (hname : located.library.friendlyName = .error c) :
    ∃ wrapper externals, served.root = .wrapperOnly wrapper externals (.collision c) := by
  cases h with
  | unlocated hnone => exact absurd rfl (hroot _)
  | failed hlocated hwrapper => exact absurd rfl (hroot _)
  | @finished found _ _ wrapper externals between chased r hlocated hwrapper hchase hfriendly =>
    obtain rfl : found = located := Except.ok.inj (hlocated.symm.trans hlocate)
    exact ⟨wrapper, externals, by rw [hfriendly.of_collision hname]; rfl⟩

end Steps

theorem request_failsFirst (hatomic : (g.openStore env).1.Atomic worlds)
    (hworld : worlds (g.openStore env).2.world)
    (hroot : (g.serve env designator base).root = .failed e) :
    FailsFirst env designator base g e := by
  obtain ⟨huntouched, hcause⟩ := (serve_step env designator base g).untouched hatomic hworld hroot
  refine ⟨hroot, huntouched.resident.trans (openStore_resident env g), huntouched.stored, ?_⟩
  rcases hcause with ⟨hunread, heq⟩ | ⟨hrefusal, hstats⟩
  · refine .inl ⟨hunread, heq, ?_⟩
    rw [request_generator, heq, openStore_stats]
  · refine .inr ⟨hrefusal, ?_⟩
    rw [request_generator, hstats, countParse, countParse, openStore_stats]

theorem request_failsLast (hown : g.OwnNames) (hstore : (g.openStore env).1.Reliable worlds)
    (hworld : worlds (g.openStore env).2.world) {wrapper : Module} {externals : List Identity}
    (hroot : (g.serve env designator base).root = .wrapperOnly wrapper externals e) :
    ∃ located, FailsLast env designator base g e located wrapper externals := by
  have hserve := serve_step env designator base g
  have hopened := hown.openStore env
  have hnamed := hstore.retentive.named
  obtain ⟨located, hlocate, hfinish⟩ := serve_chased hroot
  -- the friendly module is looked for in the generator that the chase has left
  have hchased := (chased_moves env designator base g).worlds_of_keeps hstore.retentive.keeps hworld
  have hfriendly := (g.chased env designator base).ensureFriendly_step (g.openStore env).1
    located.library wrapper
  have hends := hfinish
  rw [finish_eq] at hends
  obtain ⟨hfinished, hafter⟩ := Prod.mk.inj hends
  obtain ⟨huntouched, hstats, hcause⟩ :=
    hfriendly.untouched hstore.atomic hchased (finished_eq_wrapperOnly hfinished).2.2
  rw [hafter] at huntouched hstats
  refine ⟨located, ?_⟩
  exact
    { locate := hlocate
      root := hroot
      cause := hcause
      resident := hserve.resident hnamed hopened hlocate hroot
      finish := hfinish
      untouched := huntouched
      stats := hstats
      kept := fun {earlier event later name} hevents htarget => by
        by_cases hagain : ∃ other ∈ later, other.target? = some name
        · obtain ⟨other, hother, hsame⟩ := hagain
          have hstretch := hserve.stretch hnamed
          rw [hevents] at hstretch
          obtain ⟨halias, library, rfl⟩ := hstretch.aliased_twice htarget hother hsame
          exact .inl ⟨halias, library, hother⟩
        · have hfree : ∀ other ∈ later, other.target? ≠ some name :=
            fun other hother hsame => hagain ⟨other, hother, hsame⟩
          exact .inr ((hserve.lasting hstore hworld hopened).leaves hevents htarget hfree) }

/-- A request that fails has done one of two things.  Before there is a wrapper, it leaves the
resident and the stored modules and what has been generated as they were.  When only the friendly
module is missing, the wrapper is resident, the step that failed has changed nothing, and what was
committed before that is still resident and stored, unless it is a friendly module whose name
another one has taken since. -/
theorem request_failed (hreach : g.Reachable) (hstore : (g.openStore env).1.Reliable worlds)
    (hworld : worlds (g.openStore env).2.world)
    (hfailed : (g.request env designator base).1 = .error e) :
    FailsFirst env designator base g e ∨
      ∃ located wrapper externals, FailsLast env designator base g e located wrapper externals := by
  rw [request_answer] at hfailed
  rcases hroot : (g.serve env designator base).root with e' | ⟨wrapper, externals, e'⟩ | _
  · rw [hroot] at hfailed
    obtain rfl : e' = e := Except.error.inj hfailed
    exact .inl (request_failsFirst hstore.atomic hworld hroot)
  · rw [hroot] at hfailed
    obtain rfl : e' = e := Except.error.inj hfailed
    obtain ⟨located, hlast⟩ := request_failsLast hreach.ownNames hstore hworld hroot
    exact .inr ⟨located, wrapper, externals, hlast⟩
  · rw [hroot] at hfailed
    cases hfailed

end Requests

end Generator

/-! ## On a shelf -/

namespace Shelf

open Generator

theorem store_reliable (libraries : List Descriptor) :
    store.Reliable fun w => w.libraries = libraries where
  retentive := store_retentive libraries
  faithful := store_faithful libraries
  atomic := (Store.memory_atomic fun _ => True).within (fun _ => trivial) fun _ _ => .inl rfl

/-- The library asked for has the name of a wrapper and refers to another one: its own wrapper is
resident when the request has failed, and that of the other library is resident and stored. -/
theorem request_failed_collision :
    let a : Identity := ⟨⟨0xa⟩, 1, 0, 0⟩
    let b : Identity := ⟨⟨0xb⟩, 1, 0, 0⟩
    let declared := "_11111111_1111_1111_1111_111111111111_0_1_0"
    let libraries := [referring (some declared) a b, .bare b]
    ∃ e, ((fresh libraries).request environment (.exact a) none).1 = .error e ∧ e.IsCollision ∧
      ((fresh libraries).request environment (.exact a) none).2.Made a ∧
      ∃ m,
        Kept store ((fresh libraries).request environment (.exact a) none).2 b.wrapperName m := by
  intro a b declared libraries
  obtain ⟨items, hread, hb⟩ := Descriptor.mem_references.mp
    (show b ∈ (referring (some declared) a b).references by decide +kernel)
  have ha : find libraries a = some (referring (some declared) a b) := rfl
  have hfind : find libraries b = some (.bare b) := rfl
  have hworld : (fresh libraries).world.libraries = libraries := rfl
  obtain ⟨hstep, hlocate, -⟩ := serve_readable ha hread
  obtain ⟨library, hevent, hlibrary⟩ :=
    second_generated ha hread hb (by decide) hfind (show (Descriptor.bare b).items = _ from rfl)
  have hname : (⟨referring (some declared) a b, none⟩ : Library).friendlyName =
      .error ⟨declared, ⟨declared⟩⟩ := by decide
  have hgets := hstep.succeeds hlocate hread
    (store_commits libraries (Identity.wrapperName_isIdentifier _)) hworld
  obtain ⟨wrapper, externals, hroot⟩ := hstep.collides hlocate hgets hname
  have hfailed : ((fresh libraries).request environment (.exact a) none).1 =
      .error (.collision ⟨declared, ⟨declared⟩⟩) := by
    rw [request_answer, hroot]
    rfl
  refine ⟨_, hfailed, trivial, ?_⟩
  rcases request_failed (reachable_fresh libraries) (store_reliable libraries) hworld hfailed with
    hfirst | ⟨located, wrapper', externals', hlast⟩
  · exact absurd hfirst.root (hgets _)
  · obtain ⟨earlier, later, hevents⟩ := List.append_of_mem hevent
    obtain rfl := Except.ok.inj (hlast.locate.symm.trans hlocate)
    refine ⟨⟨wrapper', hlast.resident⟩, ?_⟩
    rcases hlast.kept hevents rfl with ⟨halias, -⟩ | ⟨m, -, hkept⟩
    · cases halias
    · rw [hlibrary] at hkept
      exact ⟨m, hkept⟩

end Shelf

end Typelib
