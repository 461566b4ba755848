import Typelib.Proofs.Generator.Agreement
import Typelib.Proofs.Generator.Repeat
import Typelib.Proofs.Store.Neighbours

/-!
# Switching between stores

The resident modules of a generator are the same for all stores it works with one after the other,
but a request commits to its own store.  So a friendly module may be committed to a store that does
not hold the wrapper it refers to: the wrapper is looked up among the resident modules, and the
friendly module, which a resident one of another library does not stand for, is not.
`aliased_stored_iff` says exactly when the wrapper is there, then and as long as there are requests
and switches only: when the store held it already, or when it was not resident.

Two facts carry this.  A wrapper that becomes resident in a request is in the store of the request
(`Moves.made_or_stored`), and as long as it is resident, nothing that is done with any store
concerns it in another one (`run_spares`).
-/

namespace Typelib

universe u

variable {σ : Type u}

namespace Generator

/-! ## Wrappers in the store of a request -/

/-- The wrapper of a library is in the store. -/
def Stored (store : Store σ) (g : Generator σ) (i : Identity) : Prop :=
  ∃ m, store.load g.world i.wrapperName = .hit m

section Moves

variable {store : Store σ} {worlds : σ → Prop} {g after : Generator σ} {i : Identity}

/-- A wrapper that is stored stays so, with the same or another text. -/
theorem Move.stored (hstore : store.Retentive worlds) (hworld : worlds g.world)
    (h : Move store g after) (hthere : Stored store g i) : Stored store after i := by
  obtain ⟨m, hm⟩ := hthere
  have hidentifier := i.wrapperName_isIdentifier
  cases h with
  | count stats => exact ⟨m, hm⟩
  | fetch hname hfree hfound => exact ⟨m, hm⟩
  | @commit name text m' world hname hfree hnone hcommit =>
    by_cases heq : i.wrapperName = name
    · subst heq
      exact ⟨m', hstore.found hworld hname hcommit⟩
    · exact ⟨m, hstore.load_commit hworld hname hidentifier heq hcommit hm⟩
  | @refuse name text e world hname hfree hnone hcommit =>
    by_cases heq : i.wrapperName = name
    · subst heq
      exact ⟨m, hstore.refused hworld hname hcommit hm⟩
    · exact ⟨m, hstore.load_commit hworld hname hidentifier heq hcommit hm⟩

/-- A wrapper becomes resident when it is found in the store or committed to it. -/
theorem Move.made_or_stored (hstore : store.Retentive worlds) (hworld : worlds g.world)
    (h : Move store g after) (hmade : after.Made i) : g.Made i ∨ Stored store after i := by
  obtain ⟨r, hr⟩ := hmade
  cases h with
  | count stats => exact .inl ⟨r, hr⟩
  | @fetch name m hname hfree hfound =>
    rw [resident_keep, hstore.named.load_name hfound] at hr
    by_cases heq : i.wrapperName = name
    · subst heq
      exact .inr ⟨m, hfound⟩
    · rw [if_neg heq] at hr
      exact .inl ⟨r, hr⟩
  | @commit name text m world hname hfree hnone hcommit =>
    rw [resident_keep, hstore.named.commit_name hcommit] at hr
    by_cases heq : i.wrapperName = name
    · subst heq
      exact .inr ⟨m, hstore.found hworld hname hcommit⟩
    · rw [if_neg heq] at hr
      exact .inl ⟨r, hr⟩
  | refuse hname hfree hnone hcommit => exact .inl ⟨r, hr⟩

theorem Moves.made_or_stored (hstore : store.Retentive worlds) (hworld : worlds g.world)
    (h : Moves store g after) (hmade : after.Made i) : g.Made i ∨ Stored store after i := by
  induction h with
  | refl => exact .inl hmade
  | @tail between after hbefore hmove ih =>
    have hbetween := Moves.worlds_of_keeps hstore.keeps hbefore hworld
    rcases hmove.made_or_stored hstore hbetween hmade with hearlier | hstored
    · exact (ih hearlier).imp_right (hmove.stored hstore hbetween)
    · exact .inr hstored

end Moves

/-! ## Friendly modules that are committed -/

section Aliased

variable {env : Environment σ} {store : Store σ} {located : Located} {library other : Library}
  {wrapper : Module} {identity : Identity} {name : ModuleName} {events : List Event}
  {g after : Generator σ}

theorem WrapperStep.not_aliased
    {r : Except RequestError (Module × List Identity) × Generator σ}
    (h : WrapperStep env store located g events r) : .aliased library name ∉ events := by
  cases h <;> simp

theorem FriendlyStep.of_aliased {r : Except RequestError (Option Module) × Generator σ}
    (h : FriendlyStep store library wrapper g events r) (hevent : .aliased other name ∈ events) :
    other = library := by
  cases h <;> simp_all

/-- The wrapper that a friendly module refers to is resident when that is committed. -/
theorem TakeUpStep.of_aliased {r : Outcome × Generator σ} (hnamed : store.Named)
    (h : TakeUpStep env store identity g events r) (hevent : .aliased library name ∈ events) :
    r.2.Made library.identity := by
  cases h with
  | unlocated hlocate => cases hevent
  | mismatch hlocate hother => cases hevent
  | failed hlocate hidentity hwrapper => exact absurd hevent hwrapper.not_aliased
  | finished hlocate hidentity hwrapper hfriendly =>
    have hevent := (List.mem_append.mp hevent).resolve_left hwrapper.not_aliased
    obtain rfl := hfriendly.of_aliased hevent
    exact hfriendly.moves.made hnamed ((hwrapper.made_iff hnamed).mpr (.inr rfl))

theorem Taken.of_aliased {visits : List Visit} (hnamed : store.Named)
    (h : Taken env store g visits after)
    (hevent : .aliased library name ∈ visitEvents env store visits g) :
    after.Made library.identity := by
  induction h with
  | nil => cases hevent
  | @cons g after identity visits h ih =>
    rcases List.mem_append.mp hevent with hfirst | hlater
    · exact h.moves.made hnamed ((takeUp_step env store identity g).of_aliased hnamed hfirst)
    · exact ih hlater

theorem ServeStep.of_aliased {designator : Designator} {base : Option Path} {served : Served σ}
    (hnamed : store.Named) (h : ServeStep env store designator base g events served)
    (hevent : .aliased library name ∈ events) : served.generator.Made library.identity := by
  cases h with
  | unlocated hlocate => cases hevent
  | failed hlocate hwrapper => exact absurd hevent hwrapper.not_aliased
  | @finished located _ _ _ externals between chased r hlocate hwrapper hchase hfriendly =>
    have hvisits := Taken.of_chaseFrom hchase
    rcases List.mem_append.mp hevent with hfirst | hlater
    · exact absurd hfirst hwrapper.not_aliased
    · rcases List.mem_append.mp hlater with htaken | hlast
      · exact hfriendly.moves.made hnamed (hvisits.of_aliased hnamed htaken)
      · obtain rfl := hfriendly.of_aliased hlast
        have hmade := (hwrapper.made_iff hnamed).mpr (.inr rfl)
        exact hfriendly.moves.made hnamed (hvisits.moves.made hnamed hmade)

end Aliased

/-! ## One store after the other -/

/-- A request that opens its store in a given way, or a switch to another destination. -/
def Action.IsCallWith (openStore : Option Path → σ → Store σ × σ) : Action σ → Prop
  | request env _ _ => env.openStore = openStore
  | configure _ => True
  | change _ => False

/-- The modules go to a directory or to memory, as configured. -/
def IsConfigured (g : Generator σ) : Prop := ∃ directory, g.destination = .configured directory

section Worlds

variable {number : Nat} {env : Environment World} {store : Store World}
  {g after : Generator World} {i : Identity} {actions : List (Action World)}

theorem openStore_configured (henv : env.openStore = World.openStore number)
    (hg : g.IsConfigured) : ∃ directory, g.openStore env =
      ((World.openStore number directory g.world).1,
        { g with world := (World.openStore number directory g.world).2 }) := by
  obtain ⟨directory, hdirectory⟩ := hg
  refine ⟨directory, ?_⟩
  rw [openStore_eq, hdirectory, henv]
  rfl

theorem Moves.keeps (hopen : g.world.IsOpen store) (h : Moves store g after) :
    World.Keeps g.world after.world := by
  induction h with
  | refl => exact .refl _
  | tail _ hmove ih =>
    have hbetween := hopen.kept ih
    rcases hmove.world_eq with heq | ⟨name, text, hname, -, heq⟩
    · rw [heq]
      exact ih
    · rw [heq]
      exact ih.trans (hbetween.commit_keeps hname text)

/-- What a request commits spares the wrappers that are resident, in all stores. -/
theorem Moves.spares (hopen : g.world.IsOpen store) (h : Moves store g after) (hmade : g.Made i) :
    World.Spares i.wrapperName g.world after.world := by
  induction h with
  | refl => exact .refl _ _
  | @tail between after hbefore hmove ih =>
    have hbetween := hopen.kept ih.toKeeps
    rcases hmove.world_eq with heq | ⟨name, text, hname, hfree, heq⟩
    · rw [heq]
      exact ih
    · obtain ⟨m, hm⟩ := Moves.made hopen.named hbefore hmade
      have hother : i.wrapperName ≠ name := by
        rintro rfl
        rw [hfree i rfl] at hm
        cases hm
      rw [heq]
      exact ih.trans (hbetween.commit_spares i.wrapperName_isIdentifier hname hother text)

section Request

variable (henv : env.openStore = World.openStore number) (hg : g.IsConfigured)
  (hnumber : number < g.world.memories.length)

include henv hg hnumber

theorem isOpen_opened : (g.openStore env).2.world.IsOpen (g.openStore env).1 := by
  obtain ⟨directory, hopen⟩ := openStore_configured henv hg
  rw [hopen]
  exact World.isOpen_openStore hnumber directory

omit hnumber in
theorem opened_keeps : World.Keeps g.world (g.openStore env).2.world := by
  obtain ⟨directory, hopen⟩ := openStore_configured henv hg
  rw [hopen]
  exact World.openStore_keeps number directory g.world

omit hnumber in
theorem opened_spares {name : ModuleName} (hname : IsIdentifier name.member) :
    World.Spares name g.world (g.openStore env).2.world := by
  obtain ⟨directory, hopen⟩ := openStore_configured henv hg
  rw [hopen]
  exact World.openStore_spares number directory g.world hname

theorem request_keeps (designator : Designator) (base : Option Path) :
    World.Keeps g.world (g.request env designator base).2.world :=
  (opened_keeps henv hg).trans
    ((serve_moves env designator base g).keeps (isOpen_opened henv hg hnumber))

theorem request_spares (designator : Designator) (base : Option Path) (hmade : g.Made i) :
    World.Spares i.wrapperName g.world (g.request env designator base).2.world := by
  have hopened := opened_spares henv hg i.wrapperName_isIdentifier
  have hstill := (made_openStore env).mpr hmade
  exact hopened.trans
    ((serve_moves env designator base g).spares (isOpen_opened henv hg hnumber) hstill)

end Request

/-- Requests and switches keep all stores, and what the generator is configured with is a directory
or memory. -/
theorem run_keeps (hactions : ∀ action ∈ actions, action.IsCallWith (World.openStore number))
    (hg : g.IsConfigured) (hnumber : number < g.world.memories.length) :
    World.Keeps g.world (run actions g).world ∧ (run actions g).IsConfigured := by
  induction actions generalizing g with
  | nil => exact ⟨.refl _, hg⟩
  | cons action rest ih =>
    rw [List.forall_mem_cons] at hactions
    obtain ⟨haction, hrest⟩ := hactions
    cases action with
    | request env designator base =>
      have hkeeps := request_keeps haction hg hnumber designator base
      have hafter : (g.request env designator base).2.IsConfigured := by
        obtain ⟨directory, hdirectory⟩ := hg
        exact ⟨directory, (serve_destination designator base).trans hdirectory⟩
      have hlater := ih hrest hafter (hkeeps.length_eq ▸ hnumber)
      exact ⟨hkeeps.trans hlater.1, hlater.2⟩
    | configure directory =>
      have hswitched : (g.configure directory).IsConfigured := ⟨directory, rfl⟩
      exact ih hrest hswitched hnumber
    | change world => exact haction.elim

/-- They spare the wrappers that are resident, in all stores. -/
theorem run_spares (hactions : ∀ action ∈ actions, action.IsCallWith (World.openStore number))
    (hg : g.IsConfigured) (hnumber : number < g.world.memories.length) (hmade : g.Made i) :
    World.Spares i.wrapperName g.world (run actions g).world := by
  induction actions generalizing g with
  | nil => exact .refl _ _
  | cons action rest ih =>
    rw [List.forall_mem_cons] at hactions
    obtain ⟨haction, hrest⟩ := hactions
    cases action with
    | request env designator base =>
      have hspares := request_spares haction hg hnumber designator base hmade
      have hfirst : ∀ action ∈ [Action.request env designator base],
          action.IsCallWith (World.openStore number) := List.forall_mem_singleton.mpr haction
      obtain ⟨-, hafter⟩ := run_keeps hfirst hg hnumber
      have hnamed := (isOpen_opened haction hg hnumber).named
      have hstill : (g.request env designator base).2.Made i :=
        (serve_moves env designator base g).made hnamed ((made_openStore env).mpr hmade)
      exact hspares.trans (ih hrest hafter (hspares.length_eq ▸ hnumber) hstill)
    | configure directory =>
      have hswitched : (g.configure directory).IsConfigured := ⟨directory, rfl⟩
      exact ih hrest hswitched hnumber hmade
    | change world => exact haction.elim

/-- After a request that commits the friendly module of a library to a store, the store holds the
wrapper of the library exactly if it held it before or the wrapper was not resident. -/
theorem request_stored_iff (henv : env.openStore = World.openStore number) (hg : g.IsConfigured)
    (hnumber : number < g.world.memories.length) {designator : Designator} {base : Option Path}
    {library : Library} {name : ModuleName}
    (haliased : .aliased library name ∈ g.serveEvents env designator base) :
    Stored (g.openStore env).1 (g.request env designator base).2 library.identity ↔
      Stored (g.openStore env).1 (g.openStore env).2 library.identity ∨
        ¬g.Made library.identity := by
  have hopen := isOpen_opened henv hg hnumber
  obtain ⟨worlds, hstore, hworld⟩ := hopen.retentive
  have hmoves := serve_moves env designator base g
  have hmade := (serve_step env designator base g).of_aliased hopen.named haliased
  by_cases hbefore : g.Made library.identity
  · rw [or_iff_left (not_not_intro hbefore)]
    have hspares := hmoves.spares hopen ((made_openStore env).mpr hbefore)
    exact exists_congr fun m => hopen.load_iff hspares (Identity.wrapperName_isIdentifier _)
  · refine iff_of_true ?_ (.inr hbefore)
    have hnew := mt (made_openStore env).mp hbefore
    exact (hmoves.made_or_stored hstore hworld hmade).resolve_left hnew

end Worlds

/-! ## Two libraries of one name -/

section Generated

variable {env : Environment σ} {store : Store σ} {located : Located} {library : Library}
  {wrapper m : Module} {name : ModuleName} {g opened : Generator σ} {world : σ}

/-- A friendly module that is not there is generated if its commit succeeds. -/
theorem ensureFriendly_generated (hname : library.friendlyName = .ok (some name))
    (hstale : ∀ r, g.resident.get? name = some r → r.text ≠ friendlyText wrapper.name)
    (habsent : ∀ r, store.load g.world name = .hit r → r.text ≠ friendlyText wrapper.name)
    (hcommit : store.commit g.world name (friendlyText wrapper.name) = (.ok m, world)) :
    g.ensureFriendly store library wrapper =
        (.ok (some m), ({ g with world }.keep m).countFriendly) ∧
      g.friendlyEvents store library wrapper = [.aliased library name] := by
  have hlookup : g.lookup store name (fun m => m.text = friendlyText wrapper.name) = (none, g) :=
    lookup_missing (by simpa using hstale) (by simpa using habsent)
  have hensure : g.ensureFriendly store library wrapper =
      (.ok (some m), ({ g with world }.keep m).countFriendly) := by
    simp only [ensureFriendly, Environment.friendlyName, hname, hlookup, commit_done hcommit]
  exact ⟨hensure, by simp only [friendlyEvents, hname, hlookup, hensure]⟩

/-- Where the wrapper of a library is resident, a request for the library commits a friendly module
that is not there. -/
theorem request_aliased {designator : Designator} {base : Option Path}
    (hopen : g.openStore env = (store, opened))
    (hlocate : env.locate opened.world designator base = .ok located)
    (hwrapper : opened.resident.get? located.library.identity.wrapperName = some wrapper)
    (hname : located.library.friendlyName = .ok (some name))
    (hstale : ∀ r, opened.resident.get? name = some r → r.text ≠ friendlyText wrapper.name)
    (habsent : ∀ r, store.load opened.world name = .hit r → r.text ≠ friendlyText wrapper.name)
    (hcommit : store.commit opened.world name (friendlyText wrapper.name) = (.ok m, world)) :
    (g.request env designator base).1 = .ok m ∧ (g.request env designator base).2.world = world ∧
      .aliased located.library name ∈ g.serveEvents env designator base := by
  obtain ⟨rfl, rfl⟩ := Prod.ext_iff.mp hopen
  have hstep := ensureWrapper_resident env (g.openStore env).1 hwrapper
  obtain ⟨hensure, hevents⟩ :=
    ensureFriendly_generated (g := (g.openStore env).2.countResident) hname hstale habsent hcommit
  have hrequest := request_of_wrapper hlocate hstep
  rw [hensure] at hrequest
  refine ⟨by rw [hrequest]; rfl, by rw [hrequest]; rfl, ?_⟩
  unfold serveEvents
  simp only [hlocate, hstep, chaseFrom, chase, visitEvents, List.nil_append, hevents]
  exact List.mem_append_right _ (List.mem_singleton.mpr rfl)

end Generated

section Loaded

variable (loader : Loader) (known : Symbols) {number : Nat} {w : World} {g : Generator World}
  {library first second : Library} {items items' : Items} {name : ModuleName}

/-- A request for a library that is loaded already, with modules in memory, leaves its modules
resident. -/
theorem loaded_resident (number : Nat) (hreach : g.Reachable)
    (hg : g.destination = .configured none) (hread : library.descriptor.items = .ok items)
    (hname : library.friendlyName = .ok (some name)) :
    let after := (g.request (.ofLoader loader known number) (.loaded library) none).2
    (∃ wrapper, after.resident.get? library.identity.wrapperName = some wrapper) ∧
      ∃ m, after.resident.get? name = some m ∧
        m.text = friendlyText library.identity.wrapperName := by
  intro after
  obtain ⟨m, hm⟩ := loaded_answered loader known number hg hread hname
  have hserve := serve_step (.ofLoader loader known number) (.loaded library) none g
  rw [openStore_memory loader known number hg] at hserve
  obtain ⟨source, hlocate⟩ : ∃ source, (Environment.ofLoader loader known number).locate g.world
      (.loaded library) none = .ok ⟨library, source⟩ := ⟨_, rfl⟩
  have hanswered := hserve.answered (World.memory_named number) (World.memory_faithful number)
    hreach.ownNames hlocate hm
  cases hanswered with
  | wrapper hnone hwrapper =>
    rw [hname] at hnone
    cases hnone
  | friendly hsome hwrapper hown hfriendly htext =>
    obtain rfl := Option.some.inj (Except.ok.inj (hname.symm.trans hsome))
    exact ⟨⟨_, hwrapper⟩, m, hfriendly, htext⟩

/-- Two libraries of one name are asked for one after the other, with modules in memory: the
wrapper of the first stays resident, and the name stands for the second. -/
theorem loaded_both (hnumber : number < w.memories.length)
    (hread : first.descriptor.items = .ok items) (hread' : second.descriptor.items = .ok items')
    (hname : first.friendlyName = .ok (some name))
    (hname' : second.friendlyName = .ok (some name)) :
    let env : Environment World := .ofLoader loader known number
    let both := run [.request env (.loaded first) none, .request env (.loaded second) none]
      (start w (.configured none))
    both.Reachable ∧ both.destination = .configured none ∧
      Agrees (World.memory number)
        (fun later => later.files = w.files ∧ number < later.memories.length) both ∧
      (∃ wrapper, both.resident.get? first.identity.wrapperName = some wrapper) ∧
      ∃ m, both.resident.get? name = some m ∧
        m.text = friendlyText second.identity.wrapperName := by
  intro env both
  have hactions : ∀ action ∈ [Action.request env (.loaded first) none,
      .request env (.loaded second) none], action.IsRequestWith (World.openStore number) := by
    simp only [List.forall_mem_cons]
    exact ⟨rfl, rfl, nofun⟩
  -- requests do not concern the files, so they agree with memory while these are as they were
  obtain ⟨hagrees, hdestination⟩ := run_start_agrees (World.memory_retentive_files number w.files)
    (World.memory_fixes ⟨rfl, hnumber⟩) hactions (List.cons_ne_nil _ _)
  let one := ((start w (.configured none)).request env (.loaded first) none).2
  have hone : one.destination = .configured none := serve_destination _ _
  have hreach : one.Reachable := ⟨[.request env (.loaded first) none], _, _, rfl⟩
  have hstart : (start w (.configured none)).Reachable := ⟨[], _, _, rfl⟩
  obtain ⟨⟨wrapper, hwrapper⟩, -⟩ := loaded_resident loader known number hstart rfl hread hname
  have hsecond := loaded_resident loader known number hreach hone hread' hname'
  have hmoves := serve_moves env (.loaded second) none one
  rw [openStore_memory loader known number hone] at hmoves
  have hboth : both = (one.request env (.loaded second) none).2 :=
    run_append [.request env (.loaded first) none] [.request env (.loaded second) none] _
  refine ⟨⟨_, _, _, rfl⟩, hdestination, hagrees, ?_⟩
  rw [hboth]
  exact ⟨⟨wrapper, hmoves.resident_wrapper (World.memory_named number) hwrapper⟩, hsecond.2⟩

end Loaded

/-- A library without items that is named `Shared`, loaded already. -/
def sharedLibrary (libid : BitVec 128) : Library :=
  ⟨{ Descriptor.bare ⟨⟨libid⟩, 1, 0, 0⟩ with name := some "Shared" }, none⟩

/-- An environment that knows loaded libraries only. -/
def loadedOnly : Environment World := .ofLoader ⟨.empty, []⟩ .standard 0

/-- A request for such a library. -/
def askShared (libid : BitVec 128) : Action World :=
  .request loadedOnly (.loaded (sharedLibrary libid)) none

theorem askShared_isCall (libid : BitVec 128) :
    (askShared libid).IsCallWith (World.openStore 0) :=
  rfl

theorem run_askShared (libid : BitVec 128) (g : Generator World) :
    run [askShared libid] g = (g.request loadedOnly (.loaded (sharedLibrary libid)) none).2 :=
  rfl

/-- A generator that has done nothing, with modules in memory and no files around it. -/
def inMemory : Generator World := start ⟨⟨.empty, none⟩, [.empty]⟩ (.configured none)

theorem sharedLibrary_friendlyName (libid : BitVec 128) :
    (sharedLibrary libid).friendlyName = .ok (some ⟨"Shared"⟩) := by
  have hname : friendlyName (some "Shared") = .ok (some ⟨"Shared"⟩) := by decide
  exact hname

/-- A directory right below the root. -/
def genDirectory : ModuleDirectory := ⟨⟨"/gen"⟩⟩

/-- Where there are no files, the directory can be made and a friendly module be written to it. -/
theorem genDirectory_prepare : ∃ made, genDirectory.prepare ⟨.empty, none⟩ = (made, none) ∧
    ∀ text, ∃ after,
      genDirectory.writeText made (genDirectory.modulePath ⟨"Shared"⟩) text = .ok after := by
  have hnone : (genDirectory.prepare ⟨.empty, none⟩).2 = none := by decide
  have hfind : (genDirectory.prepare ⟨.empty, none⟩).1.find genDirectory.path =
      .ok (["gen"], .directory) := by decide
  have hlocate : (genDirectory.prepare ⟨.empty, none⟩).1.locate
      (genDirectory.modulePath ⟨"Shared"⟩) = .ok ["gen", "Shared.rs"] := by decide
  have hnode : (genDirectory.prepare ⟨.empty, none⟩).1.node? ["gen", "Shared.rs"] ≠
      some .directory := by decide
  have habsolute : genDirectory.path.isAbsolute = true := by decide
  have hslash : (genDirectory.modulePath ⟨"Shared"⟩).endsWithSlash = false := by decide
  exact ⟨_, Prod.ext rfl hnone, fun text =>
    ⟨_, Files.replaceFile_of_find habsolute hfind hlocate hnode hslash⟩⟩

/-- Two of them have been asked for, with modules in memory. -/
def bothAsked : Generator World := run [askShared 0xa, askShared 0xb] inMemory

/-- The wrapper of the first is resident, and the resident friendly module is that of the second. -/
theorem bothAsked_resident :
    bothAsked.destination = .configured none ∧
      Agrees (World.memory 0)
        (fun later => later.files = ⟨.empty, none⟩ ∧ 0 < later.memories.length) bothAsked ∧
      ∃ wrapper m,
        bothAsked.resident.get? (sharedLibrary 0xa).identity.wrapperName = some wrapper ∧
        wrapper.name = (sharedLibrary 0xa).identity.wrapperName ∧
        bothAsked.resident.get? ⟨"Shared"⟩ = some m ∧ m.text ≠ friendlyText wrapper.name := by
  have hread (libid : BitVec 128) : (sharedLibrary libid).descriptor.items = .ok .empty := rfl
  obtain ⟨hreach, hdestination, hagrees, ⟨wrapper, hwrapper⟩, m, hm, htext⟩ :=
    loaded_both ⟨.empty, []⟩ .standard (w := ⟨⟨.empty, none⟩, [.empty]⟩) Nat.zero_lt_one
      (hread 0xa) (hread 0xb) (sharedLibrary_friendlyName 0xa) (sharedLibrary_friendlyName 0xb)
  have hother : friendlyText (sharedLibrary 0xb).identity.wrapperName ≠
      friendlyText (sharedLibrary 0xa).identity.wrapperName := by decide
  have hname := hreach.ownNames _ _ hwrapper
  rw [← hname, ← htext] at hother
  exact ⟨hdestination, hagrees, wrapper, m, hwrapper, hname, hm, hother⟩

/-- After that, modules are to go into the directory. -/
def switched : Generator World := bothAsked.configure (some genDirectory.path)

/-- A generator is to work with the directory for the first time.  The wrapper of a library is
resident, and the library is asked for whose name stands for another one. -/
theorem request_dangling {before : Generator World} {libid : BitVec 128} {wrapper m : Module}
    (hfiles : before.world.files = ⟨.empty, none⟩) (hnumber : 0 < before.world.memories.length)
    (hwrapper : before.resident.get? (sharedLibrary libid).identity.wrapperName = some wrapper)
    (hname : wrapper.name = (sharedLibrary libid).identity.wrapperName)
    (hm : before.resident.get? ⟨"Shared"⟩ = some m) (hstale : m.text ≠ friendlyText wrapper.name) :
    let library := sharedLibrary libid
    let g := before.configure (some genDirectory.path)
    let after := (g.request loadedOnly (.loaded library) none).2
    (g.openStore loadedOnly).1 = World.directory genDirectory ∧
      .aliased library ⟨"Shared"⟩ ∈ g.serveEvents loadedOnly (.loaded library) none ∧
      (∃ m, (g.request loadedOnly (.loaded library) none).1 = .ok m ∧
        (World.directory genDirectory).load after.world ⟨"Shared"⟩ = .hit m ∧
        m.text = friendlyText library.identity.wrapperName) ∧
      ∀ m, (World.directory genDirectory).load after.world library.identity.wrapperName ≠
        .hit m := by
  intro library g after
  have hdestination : g.destination = .configured (some genDirectory.path) := rfl
  replace hfiles : g.world.files = ⟨.empty, none⟩ := hfiles
  have hshared : library.friendlyName = .ok (some ⟨"Shared"⟩) := sharedLibrary_friendlyName libid
  have hidentifier : IsIdentifier (⟨"Shared"⟩ : ModuleName).member :=
    friendlyName_isIdentifier hshared
  have hconfigured : g.IsConfigured := ⟨_, hdestination⟩
  have henv : loadedOnly.openStore = World.openStore 0 := rfl
  -- the request makes the directory, and there is nothing in it
  obtain ⟨made, hprepare, hwrite⟩ := genDirectory_prepare
  rw [← hfiles] at hprepare
  have hopen : g.openStore loadedOnly =
      (World.directory genDirectory, { g with world := { g.world with files := made } }) :=
    World.openStore_directory henv hdestination hprepare
  have hnone {name : ModuleName} (hname : IsIdentifier name.member) (r : Module) :
      (World.directory genDirectory).load { g.world with files := made } name ≠ .hit r := by
    have hspares := opened_spares henv hconfigured hname
    rw [hopen] at hspares
    exact hspares.not_hit (by rw [hfiles]) hname genDirectory r
  -- the friendly module can be committed to it
  obtain ⟨files, hwritten⟩ := hwrite (sealText ⟨"Shared"⟩ (friendlyText wrapper.name))
  have hcommit := World.directory_commit (w := { g.world with files := made })
    ((ModuleDirectory.isPrepared_of_prepare hprepare).commit hidentifier hwritten)
  have hlocate : loadedOnly.locate { g.world with files := made } (.loaded library) none =
      .ok ⟨library, none⟩ := rfl
  obtain ⟨hanswer, hworld, haliased⟩ := request_aliased hopen hlocate hwrapper hshared
    (fun r hr => Option.some.inj (hm.symm.trans hr) ▸ hstale)
    (fun r hr => absurd hr (hnone hidentifier r)) hcommit
  have hfound := (World.directory_retentive genDirectory).found trivial hidentifier hcommit
  have htext := (World.directory_faithful genDirectory fun _ => True).text_eq trivial hidentifier
    hcommit
  refine ⟨by rw [hopen], haliased, ⟨_, hanswer, ?_, by rw [htext, hname]⟩, fun r hr => ?_⟩
  · rw [← hworld] at hfound
    exact hfound
  -- and what the request does spares the wrapper
  · have hopened := isOpen_opened henv hconfigured hnumber
    have hspares := (serve_moves loadedOnly (.loaded library) none g).spares hopened
      (i := library.identity) ⟨wrapper, by rw [hopen]; exact hwrapper⟩
    rw [hopen] at hopened hspares
    have hload := hopened.load_iff hspares library.identity.wrapperName_isIdentifier (m := r)
    exact hnone library.identity.wrapperName_isIdentifier r (hload.mp hr)

/-! ## Where the wrappers of persisted friendly modules are -/

/-- A generator works with memory and directories, one after the other in any order, and nothing but
its requests changes them.  When a request commits the friendly module of a library to a store, the
store holds the wrapper which that refers to, at any time from then on, exactly if it held it when
the request opened it or the wrapper was not resident. -/
theorem aliased_stored_iff {number : Nat} {w : World} (hnumber : number < w.memories.length)
    (directory : Option Path) {earlier later : List (Action World)} {env : Environment World}
    {designator : Designator} {base : Option Path} {library : Library} {name : ModuleName}
    (hearlier : ∀ action ∈ earlier, action.IsCallWith (World.openStore number))
    (henv : env.openStore = World.openStore number)
    (hlater : ∀ action ∈ later, action.IsCallWith (World.openStore number))
    (haliased : .aliased library name ∈
      (run earlier (start w (.configured directory))).serveEvents env designator base) :
    let g := run earlier (start w (.configured directory))
    let store := (g.openStore env).1
    let after := run (earlier ++ .request env designator base :: later)
      (start w (.configured directory))
    (∃ m, store.load after.world library.identity.wrapperName = .hit m) ↔
      (∃ m, store.load (g.openStore env).2.world library.identity.wrapperName = .hit m) ∨
        g.resident.get? library.identity.wrapperName = none := by
  intro g store after
  obtain ⟨hkeeps, hg⟩ := run_keeps (g := start w (.configured directory)) hearlier
    ⟨directory, rfl⟩ hnumber
  have hlength : number < g.world.memories.length := hkeeps.length_eq ▸ hnumber
  have hopen := isOpen_opened henv hg hlength
  have hmoves := serve_moves env designator base g
  -- what happens later spares the wrapper, which the request leaves resident
  let next := (g.request env designator base).2
  have hafter : after = run later next := run_append earlier _ _
  have hrequest : ∀ action ∈ [Action.request env designator base],
      action.IsCallWith (World.openStore number) := List.forall_mem_singleton.mpr henv
  obtain ⟨hnext, hconfigured⟩ := run_keeps hrequest hg hlength
  have hmade : next.Made library.identity :=
    (serve_step env designator base g).of_aliased hopen.named haliased
  have hspares := run_spares hlater hconfigured (hnext.length_eq ▸ hlength) hmade
  have hlast : (∃ m, store.load after.world library.identity.wrapperName = .hit m) ↔
      Stored store next library.identity := by
    rw [hafter]
    exact exists_congr fun m => (hopen.kept (hmoves.keeps hopen)).load_iff hspares
      library.identity.wrapperName_isIdentifier
  have hnone : g.resident.get? library.identity.wrapperName = none ↔
      ¬g.Made library.identity := by
    unfold Made
    rw [Option.eq_none_iff_forall_ne_some, not_exists]
  rw [hlast, hnone]
  exact request_stored_iff henv hg hlength haliased

/-- The first of two libraries of one name is asked for once more, with modules in memory: memory
holds its wrapper, also after a switch to a directory. -/
theorem aliased_stored_memory :
    let library := sharedLibrary 0xa
    let earlier := [askShared 0xa, askShared 0xb]
    let later : List (Action World) := [.configure (some genDirectory.path), askShared 0xb]
    .aliased library ⟨"Shared"⟩ ∈ bothAsked.serveEvents loadedOnly (.loaded library) none ∧
      ∃ m, (World.memory 0).load (run (earlier ++ askShared 0xa :: later) inMemory).world
        library.identity.wrapperName = .hit m := by
  intro library earlier later
  obtain ⟨hdestination, hagrees, wrapper, m, hwrapper, -, hm, hstale⟩ := bothAsked_resident
  have hopen : bothAsked.openStore loadedOnly = (World.memory 0, bothAsked) :=
    openStore_memory ⟨.empty, []⟩ .standard 0 hdestination
  have hlocate : loadedOnly.locate bothAsked.world (.loaded library) none =
      .ok ⟨library, none⟩ := rfl
  have hshared : library.friendlyName = .ok (some ⟨"Shared"⟩) := sharedLibrary_friendlyName 0xa
  obtain ⟨m', world, hcommit⟩ := World.memory_commits 0 (friendlyName_isIdentifier hshared)
    bothAsked.world trivial (friendlyText wrapper.name)
  have haliased := (request_aliased hopen hlocate hwrapper hshared
    (fun r hr => Option.some.inj (hm.symm.trans hr) ▸ hstale)
    (fun r hr => Lookup.hit.inj ((hagrees.stored hm).symm.trans hr) ▸ hstale) hcommit).2.2
  have hearlier : ∀ action ∈ earlier, action.IsCallWith (World.openStore 0) :=
    List.forall_mem_cons.mpr
      ⟨askShared_isCall 0xa, List.forall_mem_singleton.mpr (askShared_isCall 0xb)⟩
  have hlater : ∀ action ∈ later, action.IsCallWith (World.openStore 0) :=
    List.forall_mem_cons.mpr ⟨trivial, List.forall_mem_singleton.mpr (askShared_isCall 0xb)⟩
  have hstored := aliased_stored_iff (w := ⟨⟨.empty, none⟩, [.empty]⟩) Nat.zero_lt_one none
    hearlier rfl hlater haliased
  have hmemory : (run earlier (start ⟨⟨.empty, none⟩, [.empty]⟩ (.configured none))).openStore
      loadedOnly = (World.memory 0, bothAsked) := hopen
  dsimp only at hstored
  rw [hmemory] at hstored
  exact ⟨haliased, hstored.mpr (.inl ⟨wrapper, hagrees.stored hwrapper⟩)⟩

/-- The first of two libraries of one name is asked for once more, after a switch from memory to a
directory that does not exist yet.  The request succeeds and commits the friendly module to the
directory, but the wrapper that this refers to is not there. -/
theorem aliased_dangling :
    (∀ action ∈ [askShared 0xa, askShared 0xb, .configure (some genDirectory.path), askShared 0xa],
      action.IsCallWith (World.openStore 0)) ∧
      (∃ m, (inMemory.request loadedOnly (.loaded (sharedLibrary 0xa)) none).1 = .ok m) ∧
      (∃ m, ((run [askShared 0xa] inMemory).request loadedOnly (.loaded (sharedLibrary 0xb))
        none).1 = .ok m) ∧
      (switched.openStore loadedOnly).1 = World.directory genDirectory ∧
      .aliased (sharedLibrary 0xa) ⟨"Shared"⟩ ∈
        switched.serveEvents loadedOnly (.loaded (sharedLibrary 0xa)) none ∧
      (∃ m, (switched.request loadedOnly (.loaded (sharedLibrary 0xa)) none).1 = .ok m ∧
        (World.directory genDirectory).load (run [askShared 0xa] switched).world ⟨"Shared"⟩ =
          .hit m ∧
        m.text = friendlyText (sharedLibrary 0xa).identity.wrapperName) ∧
      ∀ m, (World.directory genDirectory).load (run [askShared 0xa] switched).world
        (sharedLibrary 0xa).identity.wrapperName ≠ .hit m := by
  obtain ⟨-, hagrees, wrapper, m, hwrapper, hname, hm, hstale⟩ := bothAsked_resident
  have hcalls : ∀ action ∈ [askShared 0xa, askShared 0xb, .configure (some genDirectory.path),
      askShared 0xa], action.IsCallWith (World.openStore 0) :=
    List.forall_mem_cons.mpr ⟨askShared_isCall 0xa, List.forall_mem_cons.mpr
      ⟨askShared_isCall 0xb, List.forall_mem_cons.mpr
        ⟨trivial, List.forall_mem_singleton.mpr (askShared_isCall 0xa)⟩⟩⟩
  have hread (libid : BitVec 128) : (sharedLibrary libid).descriptor.items = .ok .empty := rfl
  have hfirst := loaded_answered ⟨.empty, []⟩ .standard 0 (g := inMemory) rfl (hread 0xa)
    (sharedLibrary_friendlyName 0xa)
  have hone : (run [askShared 0xa] inMemory).destination = .configured none := by
    rw [run_askShared, request_generator, serve_destination]
    rfl
  have hsecond := loaded_answered ⟨.empty, []⟩ .standard 0 hone (hread 0xb)
    (sharedLibrary_friendlyName 0xb)
  refine ⟨hcalls, hfirst, hsecond, ?_⟩
  rw [run_askShared, switched]
  exact request_dangling hagrees.world.1 hagrees.world.2 hwrapper hname hm hstale

end Generator

end Typelib
