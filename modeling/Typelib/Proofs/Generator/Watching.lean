import Typelib.Proofs.Generator.History

/-!
# Watching commits

A `Watched` world writes down which commits were asked for and whether they were done, and is
otherwise the world that it watches.  A generator does the same in it as in the world itself
(`serve_watched`, `run_watched`), so what is written down are the commits of its requests.  There
is one for each parse, under the name of the wrapper, and each that is done counts as a module that
was generated (`Tallied`).
-/

namespace Typelib

universe u

variable {σ : Type u}

/-! ## Watched worlds -/

/-- A commit that was asked for, and whether it was done. -/
structure Attempt where
  name : ModuleName
  isDone : Bool
  deriving DecidableEq

namespace Attempt

/-- A wrapper was to be committed. -/
def isWrapper (a : Attempt) : Bool := isWrapperStem a.name.member

/-- A wrapper was committed. -/
def isNewWrapper (a : Attempt) : Bool := a.isWrapper && a.isDone

/-- The commit of a wrapper failed. -/
def isRefusedWrapper (a : Attempt) : Bool := a.isWrapper && !a.isDone

/-- A friendly module was committed. -/
def isNewFriendly (a : Attempt) : Bool := !a.isWrapper && a.isDone

end Attempt

/-- A world, and the commits that were asked for in it. -/
structure Watched (σ : Type u) where
  world : σ
  attempts : List Attempt

/-- The store, with its commits written down. -/
def Store.watched (store : Store σ) : Store (Watched σ) :=
  { description := store.description
    isPersistent := store.isPersistent
    location := store.location
    load := fun w => store.load w.world
    commit := fun w name text =>
      let (result, world) := store.commit w.world name text
      (result, ⟨world, w.attempts ++ [⟨name, result.isOk⟩]⟩)
    list := fun w => store.list w.world }

/-- The environment, with the commits to its stores written down. -/
def Environment.watched (env : Environment σ) : Environment (Watched σ) :=
  { files := fun w => env.files w.world
    registry := env.registry
    load := fun w => env.load w.world
    items := env.items
    known := env.known
    openStore := fun directory w =>
      let (store, world) := env.openStore directory w.world
      (store.watched, { w with world }) }

def Destination.watched : Destination σ → Destination (Watched σ)
  | configured directory => .configured directory
  | given store => .given store.watched

namespace Generator

/-- The generator in a world in which some commits have been written down. -/
def watched (g : Generator σ) (attempts : List Attempt) : Generator (Watched σ) :=
  ⟨⟨g.world, attempts⟩, g.resident, g.stats, g.destination.watched⟩

/-- The counters have gone up by the numbers of commits of each kind. -/
structure Tallied (before : Stats) (attempts : List Attempt) (after : Stats) : Prop where
  parses : after.parses = before.parses + attempts.countP Attempt.isWrapper
  wrappers : after.wrappersGenerated =
    before.wrappersGenerated + attempts.countP Attempt.isNewWrapper
  friendly : after.friendlyGenerated =
    before.friendlyGenerated + attempts.countP Attempt.isNewFriendly

theorem Tallied.refl (stats : Stats) : Tallied stats [] stats := ⟨rfl, rfl, rfl⟩

theorem Tallied.append {before between after : Stats} {attempts more : List Attempt}
    (h : Tallied before attempts between) (h' : Tallied between more after) :
    Tallied before (attempts ++ more) after where
  parses := by rw [h'.parses, h.parses, List.countP_append, Nat.add_assoc]
  wrappers := by rw [h'.wrappers, h.wrappers, List.countP_append, Nat.add_assoc]
  friendly := by rw [h'.friendly, h.friendly, List.countP_append, Nat.add_assoc]

/-- A parse, and the commit of the wrapper. -/
theorem Tallied.of_wrapper {before after : Stats} {attempt : Attempt} (h : attempt.isWrapper)
    (hparses : after.parses = before.parses + 1)
    (hwrappers : after.wrappersGenerated = before.wrappersGenerated + attempt.isDone.toNat)
    (hfriendly : after.friendlyGenerated = before.friendlyGenerated) :
    Tallied before [attempt] after where
  parses := by simpa [h] using hparses
  wrappers := by cases hdone : attempt.isDone <;> simp_all [Attempt.isNewWrapper]
  friendly := by simpa [Attempt.isNewFriendly, h] using hfriendly

/-- The commit of a friendly module. -/
theorem Tallied.of_friendly {before after : Stats} {attempt : Attempt}
    (h : attempt.isWrapper = false) (hparses : after.parses = before.parses)
    (hwrappers : after.wrappersGenerated = before.wrappersGenerated)
    (hfriendly : after.friendlyGenerated = before.friendlyGenerated + attempt.isDone.toNat) :
    Tallied before [attempt] after where
  parses := by simpa [h] using hparses
  wrappers := by simpa [Attempt.isNewWrapper, h] using hwrappers
  friendly := by cases hdone : attempt.isDone <;> simp_all [Attempt.isNewFriendly]

section Steps

variable (env : Environment σ) (store : Store σ) (g : Generator σ) (attempts : List Attempt)

theorem lookup_watched (name : ModuleName) (accept : Module → Bool) :
    (g.watched attempts).lookup store.watched name accept =
      ((g.lookup store name accept).1, (g.lookup store name accept).2.watched attempts) := by
  have hresident : (g.watched attempts).residentModule? name accept =
      g.residentModule? name accept := rfl
  have hstored : storedModule? store.watched (g.watched attempts) name accept =
      storedModule? store g name accept := rfl
  unfold lookup
  rw [hresident, hstored]
  rcases g.residentModule? name accept with _ | m
  · rcases storedModule? store g name accept with _ | m <;> rfl
  · rfl

theorem commit_watched (name : ModuleName) (text : String) :
    (g.watched attempts).commit store.watched name text =
      ((g.commit store name text).1, (g.commit store name text).2.watched
        (attempts ++ [⟨name, (g.commit store name text).1.isOk⟩])) := by
  have hstore : store.watched.commit (g.watched attempts).world name text =
      ((store.commit g.world name text).1, ⟨(store.commit g.world name text).2,
        attempts ++ [⟨name, (store.commit g.world name text).1.isOk⟩]⟩) := rfl
  unfold commit
  rw [hstore]
  rcases store.commit g.world name text with ⟨e | m, world⟩ <;> rfl

/-- Looking a module up generates nothing. -/
theorem lookup_tallied (name : ModuleName) (accept : Module → Bool) :
    Tallied g.stats [] (g.lookup store name accept).2.stats := by
  unfold lookup
  rcases g.residentModule? name accept with _ | m
  · rcases storedModule? store g name accept with _ | m <;> exact ⟨rfl, rfl, rfl⟩
  · exact ⟨rfl, rfl, rfl⟩

/-- What was done is done by the watched generator as well, and the commits that it writes down are
those that the counters count. -/
def Replayed {α : Type*} (g : Generator σ) (attempts : List Attempt) (r : α × Generator σ)
    (w : α × Generator (Watched σ)) : Prop :=
  ∃ more, w = (r.1, r.2.watched (attempts ++ more)) ∧ Tallied g.stats more r.2.stats

variable {store g attempts} in
theorem Replayed.of_idle {α : Type*} {r : α × Generator σ} (h : Tallied g.stats [] r.2.stats) :
    Replayed g attempts r (r.1, r.2.watched attempts) :=
  ⟨[], by rw [List.append_nil], h⟩

theorem ensureWrapper_watched (located : Located) :
    Replayed g attempts (g.ensureWrapper env store located)
      ((g.watched attempts).ensureWrapper env.watched store.watched located) := by
  have hshape : isWrapperStem located.library.identity.wrapperName.member :=
    located.library.identity.isWrapperStem_wrapperStem
  have hitems : env.watched.items = env.items := rfl
  have hknown : env.watched.known = env.known := rfl
  have htally := lookup_tallied store g located.library.identity.wrapperName fun _ => true
  unfold ensureWrapper
  dsimp only
  rw [lookup_watched]
  rcases hlookup : g.lookup store located.library.identity.wrapperName (fun _ => true) with
    ⟨_ | m, found⟩
  · rw [hlookup] at htally
    have hparse : (found.watched attempts).countParse = found.countParse.watched attempts := rfl
    dsimp only
    rw [hitems]
    rcases env.items located.library with e | items
    · exact .of_idle htally
    · dsimp only
      rw [hparse, hknown, commit_watched]
      rcases hcommit : store.commit found.countParse.world located.library.identity.wrapperName
        (Wrapper.ofItems located.library.identity items env.known located.source).text with
        ⟨e | m, world⟩
      · rw [commit_refused hcommit]
        exact ⟨_, rfl, htally.append (.of_wrapper hshape rfl rfl rfl)⟩
      · rw [commit_done hcommit]
        exact ⟨_, rfl, htally.append (.of_wrapper hshape rfl rfl rfl)⟩
  · rw [hlookup] at htally
    exact .of_idle htally

theorem ensureFriendly_watched (library : Library) (wrapper : Module) :
    Replayed g attempts (g.ensureFriendly store library wrapper)
      ((g.watched attempts).ensureFriendly store.watched library wrapper) := by
  unfold ensureFriendly Environment.friendlyName
  rcases hname : library.friendlyName with e | _ | name
  · exact .of_idle (.refl g.stats)
  · exact .of_idle (.refl g.stats)
  · obtain ⟨-, -, -, hshape⟩ := friendlyName_cases hname
    have htally := lookup_tallied store g name fun m => m.text = friendlyText wrapper.name
    dsimp only
    rw [lookup_watched]
    rcases hlookup : g.lookup store name (fun m => m.text = friendlyText wrapper.name) with
      ⟨_ | m, found⟩
    · rw [hlookup] at htally
      dsimp only
      rw [commit_watched]
      rcases hcommit : store.commit found.world name (friendlyText wrapper.name) with
        ⟨e | m, world⟩
      · rw [commit_refused hcommit]
        exact ⟨_, rfl, htally.append (.of_friendly hshape rfl rfl rfl)⟩
      · rw [commit_done hcommit]
        exact ⟨_, rfl, htally.append (.of_friendly hshape rfl rfl rfl)⟩
    · rw [hlookup] at htally
      exact .of_idle htally

theorem finish_watched (library : Library) (wrapper : Module) (externals : List Identity) :
    Replayed g attempts (g.finish store library wrapper externals)
      ((g.watched attempts).finish store.watched library wrapper externals) := by
  obtain ⟨more, heq, htally⟩ := ensureFriendly_watched store g attempts library wrapper
  rw [finish_eq, finish_eq, heq]
  exact ⟨more, rfl, htally⟩

theorem locate_watched (designator : Designator) (base : Option Path) :
    env.watched.locate (g.watched attempts).world designator base =
      env.locate g.world designator base := rfl

theorem takeUp_watched (identity : Identity) :
    Replayed g attempts (g.takeUp env store identity)
      ((g.watched attempts).takeUp env.watched store.watched identity) := by
  unfold takeUp
  rw [locate_watched]
  rcases env.locate g.world (.exact identity) none with e | located
  · exact .of_idle (.refl g.stats)
  · dsimp only
    split
    · exact .of_idle (.refl g.stats)
    · obtain ⟨more, heq, htally⟩ := ensureWrapper_watched env store g attempts located
      rw [heq]
      rcases hwrapper : g.ensureWrapper env store located with ⟨e | ⟨wrapper, externals⟩, between⟩
      · rw [hwrapper] at htally
        exact ⟨more, rfl, htally⟩
      · rw [hwrapper] at htally
        obtain ⟨last, hfinish, htally'⟩ := finish_watched store between (attempts ++ more)
          located.library wrapper externals
        dsimp only
        rw [hfinish]
        exact ⟨more ++ last, by rw [List.append_assoc], htally.append htally'⟩

/-- The watched generator takes the same libraries up. -/
theorem chase_watched (visited : List Identity) (distinct : visited.Nodup)
    (pending : List Identity) :
    Replayed g attempts (g.chase env store visited distinct pending)
      ((g.watched attempts).chase env.watched store.watched visited distinct pending) := by
  fun_induction chase env store visited distinct pending g generalizing attempts with
  | case1 =>
    rw [chase]
    exact .of_idle (.refl _)
  | case2 visited distinct g identity rest hseen ih =>
    rw [chase, dif_pos hseen]
    exact ih attempts
  | case3 visited distinct g identity rest hnew outcome next htake visits after hchase ih =>
    obtain ⟨more, heq, htally⟩ := takeUp_watched env store g attempts identity
    rw [chase, dif_neg hnew, heq, htake]
    obtain ⟨last, hlast, htally'⟩ := ih (attempts ++ more)
    rw [htake] at htally
    rw [hchase] at hlast htally'
    dsimp only
    rw [hlast]
    exact ⟨more ++ last, by rw [List.append_assoc], htally.append htally'⟩

theorem openStore_watched :
    (g.watched attempts).openStore env.watched =
      ((g.openStore env).1.watched, (g.openStore env).2.watched attempts) := by
  rcases g with ⟨world, resident, stats, directory | store⟩ <;> rfl

/-- A request in the watched world ends in the same way. -/
theorem serve_watched (designator : Designator) (base : Option Path) :
    ∃ more, (g.watched attempts).serve env.watched designator base =
        ⟨(g.serve env designator base).root, (g.serve env designator base).visits,
          (g.serve env designator base).generator.watched (attempts ++ more)⟩ ∧
      Tallied g.stats more (g.serve env designator base).generator.stats := by
  have hstats := openStore_stats env g
  unfold serve
  rw [openStore_watched]
  rcases hopen : g.openStore env with ⟨store, start⟩
  rw [hopen] at hstats
  rw [← hstats]
  dsimp only
  rw [locate_watched]
  rcases env.locate start.world designator base with e | located
  · exact ⟨[], by rw [List.append_nil], .refl _⟩
  · obtain ⟨first, hfirst, htally⟩ := ensureWrapper_watched env store start attempts located
    dsimp only
    rw [hfirst]
    rcases hwrapper : start.ensureWrapper env store located with
      ⟨e | ⟨wrapper, externals⟩, between⟩
    · rw [hwrapper] at htally
      exact ⟨first, rfl, htally⟩
    · rw [hwrapper] at htally
      obtain ⟨more, hmore, htally'⟩ := chase_watched env store between (attempts ++ first)
        [located.library.identity] (by simp) externals
      dsimp only
      rw [hmore]
      rcases hchase : between.chase env store [located.library.identity] (by simp) externals with
        ⟨visits, chased⟩
      rw [hchase] at htally'
      obtain ⟨last, hlast, htally''⟩ := finish_watched store chased (attempts ++ first ++ more)
        located.library wrapper externals
      dsimp only
      rw [hlast]
      exact ⟨first ++ (more ++ last), by simp [List.append_assoc],
        htally.append (htally'.append htally'')⟩

end Steps

/-! ## Runs -/

/-- The watched generator after an action; what was written down stays when the world changes. -/
def Action.runWatched : Action σ → Generator (Watched σ) → Generator (Watched σ)
  | request env designator base, g => (g.request env.watched designator base).2
  | configure directory, g => g.configure directory
  | change world, g => { g with world := { g.world with world } }

/-- The watched generator after a sequence of actions. -/
def runWatched (actions : List (Action σ)) (g : Generator (Watched σ)) : Generator (Watched σ) :=
  actions.foldl (fun g action => action.runWatched g) g

theorem Action.run_watched (action : Action σ) (g : Generator σ) (attempts : List Attempt) :
    ∃ more, action.runWatched (g.watched attempts) = (action.run g).watched (attempts ++ more) ∧
      Tallied g.stats more (action.run g).stats := by
  cases action with
  | request env designator base =>
    obtain ⟨more, heq, htally⟩ := serve_watched env g attempts designator base
    refine ⟨more, ?_, htally⟩
    show ((g.watched attempts).serve env.watched designator base).generator = _
    rw [heq]
    rfl
  | configure directory => exact ⟨[], by rw [List.append_nil]; rfl, .refl _⟩
  | change world => exact ⟨[], by rw [List.append_nil]; rfl, .refl _⟩

/-- In a run the watched generator does what the generator does, and the commits that it writes down
are those that the counters count. -/
theorem run_watched (actions : List (Action σ)) (g : Generator σ) (attempts : List Attempt) :
    ∃ more, runWatched actions (g.watched attempts) = (run actions g).watched (attempts ++ more) ∧
      Tallied g.stats more (run actions g).stats := by
  induction actions generalizing g attempts with
  | nil => exact ⟨[], by rw [List.append_nil]; rfl, .refl _⟩
  | cons action rest ih =>
    obtain ⟨first, hfirst, htally⟩ := action.run_watched g attempts
    obtain ⟨more, hmore, htally'⟩ := ih (action.run g) (attempts ++ first)
    refine ⟨first ++ more, ?_, htally.append htally'⟩
    rw [runWatched, List.foldl_cons, hfirst, ← runWatched, hmore, List.append_assoc]
    rfl

end Generator

end Typelib
