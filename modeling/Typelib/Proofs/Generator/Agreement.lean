import Typelib.Proofs.Generator.Fixed
import Typelib.Proofs.Generator.Independence
import Typelib.Proofs.Store.Opened

/-!
# The two tiers agree

A generator `Agrees` with a store if every resident module is found in the store under the name it
is resident under, as it is.  Every move of a request keeps this in a retentive store: a module
becomes resident when it is found or committed, a commit concerns the modules under its own name
only, and one that is refused does not touch what is there.  So it holds after any number of
requests to a generator that had done nothing and works with one store (`resident_stored`).
-/

namespace Typelib

universe u

variable {σ : Type u}

namespace Generator

/-- Every resident module is found in the store, and the world is one of a set. -/
structure Agrees (store : Store σ) (worlds : σ → Prop) (g : Generator σ) : Prop where
  world : worlds g.world
  identifier : ∀ {name m}, g.resident.get? name = some m → IsIdentifier name.member
  stored : ∀ {name m}, g.resident.get? name = some m → store.load g.world name = .hit m

section Moves

variable {env : Environment σ} {store : Store σ} {worlds : σ → Prop} {g after : Generator σ}

theorem Agrees.start {world : σ} (h : worlds world) (destination : Destination σ) :
    Agrees store worlds (start world destination) :=
  ⟨h, nofun, nofun⟩

/-- A module may become resident if it is found under its name and the store has the other resident
ones. -/
theorem Agrees.keep {name : ModuleName} {m : Module} (hworld : worlds g.world)
    (hname : IsIdentifier name.member) (hm : m.name = name)
    (hfound : store.load g.world name = .hit m)
    (hothers : ∀ {other r}, other ≠ name → g.resident.get? other = some r →
      IsIdentifier other.member ∧ store.load g.world other = .hit r) :
    Agrees store worlds (g.keep m) := by
  have hresident : ∀ {other r}, (g.keep m).resident.get? other = some r →
      IsIdentifier other.member ∧ store.load g.world other = .hit r := by
    intro other r hr
    rw [resident_keep, hm] at hr
    by_cases heq : other = name
    · rw [if_pos heq] at hr
      obtain rfl := Option.some.inj hr
      rw [heq]
      exact ⟨hname, hfound⟩
    · rw [if_neg heq] at hr
      exact hothers heq hr
  exact ⟨hworld, fun hr => (hresident hr).1, fun hr => (hresident hr).2⟩

theorem Move.agrees (hstore : store.Retentive worlds) (h : Move store g after)
    (hg : Agrees store worlds g) : Agrees store worlds after := by
  cases h with
  | count stats => exact ⟨hg.world, hg.identifier, hg.stored⟩
  | fetch hname hfree hfound =>
    exact .keep hg.world hname (hstore.named.load_name hfound) hfound
      fun _ hr => ⟨hg.identifier hr, hg.stored hr⟩
  | @commit name text m world hname hfree hnone hcommit =>
    have hworld := hstore.keeps hg.world hname text
    rw [hcommit] at hworld
    exact .keep (g := { g with world }) hworld hname (hstore.named.commit_name hcommit)
      (hstore.found hg.world hname hcommit) fun hne hr => ⟨hg.identifier hr,
        hstore.load_commit hg.world hname (hg.identifier hr) hne hcommit (hg.stored hr)⟩
  | @refuse name text e world hname hfree hnone hcommit =>
    have hworld := hstore.keeps hg.world hname text
    rw [hcommit] at hworld
    refine ⟨hworld, hg.identifier, fun {other m} hm => ?_⟩
    by_cases heq : other = name
    · subst heq
      exact hstore.refused hg.world hname hcommit (hg.stored hm)
    · exact hstore.load_commit hg.world hname (hg.identifier hm) heq hcommit (hg.stored hm)

theorem Moves.agrees (hstore : store.Retentive worlds) (h : Moves store g after)
    (hg : Agrees store worlds g) : Agrees store worlds after := by
  induction h with
  | refl => exact hg
  | tail _ hmove ih => exact hmove.agrees hstore ih

end Moves

/-! ## Requests to a generator with one store -/

section Requests

variable {store : Store σ} {worlds : σ → Prop} {openStore : Option Path → σ → Store σ × σ}
  {destination : Destination σ} {world : σ} {g : Generator σ} {actions : List (Action σ)}

/-- A request that opens its store in a given way. -/
def Action.IsRequestWith (openStore : Option Path → σ → Store σ × σ) : Action σ → Prop
  | request env _ _ => env.openStore = openStore
  | configure _ | change _ => False

/-- A generator that opens a store it agrees with agrees with it after a request. -/
theorem request_agrees {env : Environment σ} (designator : Designator) (base : Option Path)
    (hstore : store.Retentive worlds) (hopens : (g.openStore env).1 = store)
    (hg : Agrees store worlds (g.openStore env).2) :
    Agrees store worlds (g.request env designator base).2 := by
  have hmoves := serve_moves env designator base g
  rw [hopens] at hmoves
  exact hmoves.agrees hstore hg

/-- Once a store is open, requests agree with it. -/
theorem run_agrees (hstore : store.Retentive worlds)
    (hfixes : destination.Fixes openStore world store worlds)
    (hactions : ∀ action ∈ actions, action.IsRequestWith openStore)
    (hdestination : g.destination = destination) (hg : Agrees store worlds g) :
    Agrees store worlds (run actions g) ∧ (run actions g).destination = destination := by
  induction actions generalizing g with
  | nil => exact ⟨hg, hdestination⟩
  | cons action rest ih =>
    rw [List.forall_mem_cons] at hactions
    obtain ⟨haction, hrest⟩ := hactions
    cases action with
    | request env designator base =>
      have hopened : g.openStore env = (store, g) := by
        rw [openStore_eq, hdestination, haction, hfixes.rests hg.world, ← hdestination]
      refine ih hrest ((serve_destination designator base).trans hdestination) ?_
      exact request_agrees designator base hstore (by rw [hopened]) (by rwa [hopened])
    | configure directory => exact haction.elim
    | change world => exact haction.elim

/-- The first request to a generator that had done nothing opens its store. -/
theorem start_agrees {env : Environment σ} (designator : Designator) (base : Option Path)
    (hstore : store.Retentive worlds)
    (hfixes : destination.Fixes env.openStore world store worlds) :
    Agrees store worlds ((start world destination).request env designator base).2 := by
  refine request_agrees designator base hstore ?_ ?_
  · rw [openStore_eq]
    exact hfixes.opens
  · rw [openStore_eq]
    exact .start hfixes.leads destination

theorem run_start_agrees (hstore : store.Retentive worlds)
    (hfixes : destination.Fixes openStore world store worlds)
    (hactions : ∀ action ∈ actions, action.IsRequestWith openStore) (hsome : actions ≠ []) :
    Agrees store worlds (run actions (start world destination)) ∧
      (run actions (start world destination)).destination = destination := by
  cases actions with
  | nil => exact absurd rfl hsome
  | cons action rest =>
    rw [List.forall_mem_cons] at hactions
    obtain ⟨haction, hrest⟩ := hactions
    cases action with
    | request env designator base =>
      have hopens : destination.Fixes env.openStore world store worlds := haction ▸ hfixes
      have hfirst := start_agrees designator base hstore hopens
      have hlater := run_agrees hstore hfixes hrest (serve_destination designator base) hfirst
      exact hlater
    | configure directory => exact haction.elim
    | change world => exact haction.elim

end Requests

/-- After any requests to a generator that had done nothing, every resident module goes by its own
name and is what the store has under it.  The libraries, the order of the requests and which of
them fail do not matter, nor what the store had to begin with. -/
theorem resident_stored {number : Nat} {w : World} {destination : Destination World}
    {store : Store World} (hfixed : World.Fixed number w destination store)
    {requests : List (Action World)}
    (hrequests : ∀ action ∈ requests, action.IsRequestWith (World.openStore number)) :
    let after := run requests (start w destination)
    (∀ name m, after.resident.get? name = some m →
      m.name = name ∧ store.load after.world m.name = .hit m) ∧
    ∀ env : Environment World, env.openStore = World.openStore number →
      (after.openStore env).1 = store := by
  intro after
  obtain ⟨worlds, hstore, hfixes, -⟩ := hfixed.fixes
  by_cases hnone : requests = []
  · subst hnone
    refine ⟨nofun, fun env henv => ?_⟩
    rw [openStore_eq, henv]
    exact hfixes.opens
  · obtain ⟨hagrees, hdestination⟩ := run_start_agrees hstore hfixes hrequests hnone
    refine ⟨fun name m hm => ?_, fun env henv => ?_⟩
    · have hname := hstore.named.load_name (hagrees.stored hm)
      exact ⟨hname, by rw [hname]; exact hagrees.stored hm⟩
    · rw [openStore_eq, henv, hdestination, hfixes.rests hagrees.world]

/-! ## Libraries that are loaded -/

section Loaded

variable (loader : Loader) (known : Symbols) (number : Nat) {g opened : Generator World}
  {store : Store World} {worlds : World → Prop} {library : Library} {items : Items}
  {name : Option ModuleName}

/-- A request for a library that is loaded already is answered if the store can serve the library,
its items can be read and its name is not in the way. -/
theorem loaded_answered_of_serves
    (hopen : g.openStore (.ofLoader loader known number) = (store, opened))
    (hworld : worlds opened.world) (hserves : store.Serves worlds library)
    (hread : library.descriptor.items = .ok items) (hname : library.friendlyName = .ok name) :
    ∃ m, (g.request (.ofLoader loader known number) (.loaded library) none).1 = .ok m := by
  have hserve := serve_step (.ofLoader loader known number) (.loaded library) none g
  rw [hopen] at hserve
  obtain ⟨source, hlocate⟩ : ∃ source, (Environment.ofLoader loader known number).locate
      opened.world (.loaded library) none = .ok ⟨library, source⟩ := ⟨_, rfl⟩
  have hitems : (Environment.ofLoader loader known number).items library = .ok items := hread
  have hroot := hserve.succeeds hlocate hitems hserves.wrapper hworld
  have hcommits : ∀ m, name = some m → store.Commits worlds m := by
    rintro m rfl
    exact hserves.friendly hname
  exact hserve.answers hserves.lawful hlocate hroot hworld hname hcommits

/-- Memory can serve every library. -/
theorem memory_serves (number : Nat) (library : Library) :
    (World.memory number).Serves (fun _ => True) library where
  lawful := World.memory_lawful number
  faithful := World.memory_faithful number
  wrapper := World.memory_commits number (Identity.wrapperName_isIdentifier _)
  friendly hname := World.memory_commits number (friendlyName_isIdentifier hname)

/-- A directory in which nothing but texts lies can serve the libraries for which it has room. -/
theorem directory_serves {d : ModuleDirectory} (loc : Location)
    (hwrapper : d.HasRoomFor library.identity.wrapperName)
    (hfriendly : ∀ name, library.friendlyName = .ok (some name) → d.HasRoomFor name) :
    (World.directory d).Serves (World.IsHeld d loc) library where
  lawful := World.directory_lawful_isHeld d loc
  faithful := World.directory_faithful d _
  wrapper := World.directory_commits_isHeld (Identity.wrapperName_isIdentifier _) hwrapper
  friendly hname :=
    World.directory_commits_isHeld (friendlyName_isIdentifier hname) (hfriendly _ hname)

theorem directory_serves_of_name {d : ModuleDirectory} (loc : Location) {name : ModuleName}
    (hname : library.friendlyName = .ok (some name))
    (hwrapper : d.HasRoomFor library.identity.wrapperName) (hfriendly : d.HasRoomFor name) :
    (World.directory d).Serves (World.IsHeld d loc) library := by
  refine directory_serves loc hwrapper fun other hother => ?_
  cases hname.symm.trans hother
  exact hfriendly

theorem openStore_memory (hg : g.destination = .configured none) :
    g.openStore (.ofLoader loader known number) = (World.memory number, g) := by
  obtain ⟨world, resident, stats, destination⟩ := g
  subst hg
  rfl

/-- With modules in memory every such request is answered. -/
theorem loaded_answered (hg : g.destination = .configured none)
    (hread : library.descriptor.items = .ok items) (hname : library.friendlyName = .ok name) :
    ∃ m, (g.request (.ofLoader loader known number) (.loaded library) none).1 = .ok m :=
  loaded_answered_of_serves loader known number (openStore_memory loader known number hg) trivial
    (memory_serves number library) hread hname

/-- After requests for two libraries the friendly module of the second is resident, whatever name
the first has. -/
theorem loaded_twice_resident {w : World} {destination : Destination World} (first : Library)
    {name : ModuleName} (hfixes : destination.Fixes (World.openStore number) w store worlds)
    (hserves : store.Serves worlds library) (hread : library.descriptor.items = .ok items)
    (hname : library.friendlyName = .ok (some name)) :
    ∃ m, (run [.request (.ofLoader loader known number) (.loaded first) none,
        .request (.ofLoader loader known number) (.loaded library) none]
          (start w destination)).resident.get? name = some m ∧
      m.text = friendlyText library.identity.wrapperName := by
  let env : Environment World := .ofLoader loader known number
  let between := ((start w destination).request env (.loaded first) none).2
  have hmoves := serve_moves env (.loaded first) none (start w destination)
  rw [openStore_eq] at hmoves
  have hworld : worlds between.world := hmoves.worlds (hfixes.opens ▸ hserves.lawful) hfixes.leads
  have hopen : between.openStore env = (store, between) := by
    have hdestination : between.destination = destination := serve_destination _ _
    rw [openStore_eq, hdestination]
    rw [show env.openStore = World.openStore number from rfl, hfixes.rests hworld, ← hdestination]
  have hreach : between.Reachable := ⟨_, _, _, (run_request _ _ _ _).symm⟩
  have hserve : between.CanServe env (.loaded library) none := by
    refine ⟨worlds, by rwa [hopen], fun located hlocated => ?_⟩
    rw [hopen]
    cases hlocated
    exact hserves
  obtain ⟨m, hm⟩ := loaded_answered_of_serves loader known number hopen hworld hserves hread hname
  obtain ⟨-, htext, hresident⟩ := (request_content hreach hserve).2 _ _ m rfl hname hm
  have hlast : run [.request env (.loaded first) none, .request env (.loaded library) none]
      (start w destination) = (between.request env (.loaded library) none).2 := by
    rw [request_generator, ← run_request]
    exact run_append [.request env (.loaded first) none] [.request env (.loaded library) none] _
  rw [← hlast] at hresident
  exact ⟨m, hresident, htext⟩

end Loaded

/-- Two libraries of one name are asked for one after the other: in both tiers the shared name
stands for the friendly module of the second, with modules in memory and in a directory that was
empty. -/
theorem resident_stored_shared :
    let first : Library := ⟨{ Descriptor.bare ⟨⟨1⟩, 1, 0, 0⟩ with name := some "Shared" }, none⟩
    let second : Library := ⟨{ Descriptor.bare ⟨⟨2⟩, 1, 0, 0⟩ with name := some "Shared" }, none⟩
    let env : Environment World := .ofLoader ⟨.empty, []⟩ .standard 0
    let asked : List (Action World) :=
      [.request env (.loaded first) none, .request env (.loaded second) none]
    let after := run asked (start ⟨⟨.empty, none⟩, [.empty]⟩ (.configured none))
    let afterThere := run asked (start .bare (.configured (some ⟨"/gen"⟩)))
    (∃ m, after.resident.get? ⟨"Shared"⟩ = some m ∧
      m.text = friendlyText second.identity.wrapperName ∧
      (World.memory 0).load after.world m.name = .hit m) ∧
    ∃ m, afterThere.resident.get? ⟨"Shared"⟩ = some m ∧
      m.text = friendlyText second.identity.wrapperName ∧
      (World.directory ⟨⟨"/gen"⟩⟩).load afterThere.world m.name = .hit m := by
  intro first second env asked after afterThere
  have hrequests : ∀ action ∈ asked, action.IsRequestWith (World.openStore 0) := by
    simp only [asked, List.forall_mem_cons]
    exact ⟨rfl, rfl, nofun⟩
  have hshared : second.friendlyName = .ok (some ⟨"Shared"⟩) := by decide
  have hread : second.descriptor.items = .ok .empty := rfl
  -- world and store are left open here, lest requests be carried out where terms are compared
  have hany : ∀ (w : World) (destination : Destination World) (store : Store World)
      (worlds : World → Prop), World.Fixed 0 w destination store →
      destination.Fixes (World.openStore 0) w store worlds → store.Serves worlds second →
      ∀ after, after = run asked (start w destination) →
      ∃ m, after.resident.get? ⟨"Shared"⟩ = some m ∧
        m.text = friendlyText second.identity.wrapperName ∧
        store.load after.world m.name = .hit m := by
    rintro w destination store worlds hfixed hfixes hserves _ rfl
    obtain ⟨m, hm, htext⟩ :=
      loaded_twice_resident ⟨.empty, []⟩ .standard 0 first hfixes hserves hread hshared
    exact ⟨m, hm, htext, ((resident_stored hfixed hrequests).1 _ m hm).2⟩
  refine ⟨hany ⟨⟨.empty, none⟩, [.empty]⟩ _ _ _ (.memory Nat.zero_lt_one)
    (World.memory_fixes trivial) (memory_serves 0 second) after rfl, ?_⟩
  obtain ⟨loc, hfixes, -⟩ := World.fixes_of_empty 0 World.entries_bare World.prepare_bare
  have hserves : (World.directory ⟨⟨"/gen"⟩⟩).Serves (World.IsHeld ⟨⟨"/gen"⟩⟩ loc) second :=
    directory_serves_of_name loc hshared (by decide) (by decide)
  exact hany .bare _ _ _ (.directory World.prepare_bare) hfixes hserves afterThere rfl

end Generator

end Typelib
