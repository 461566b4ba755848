import Typelib.Proofs.Generator.Agreement
import Typelib.Proofs.Generator.Repeat

/-!
# Starting with a store that is filled

What answers a request is resident afterwards, and resident modules are stored, so the store that a
generator leaves holds the modules of a library it has answered a request for.  A generator that
has done nothing looks them up there and does nothing else (`request_of_stored`), so it answers a
request for the library with the same module (`warm_start`).
-/

namespace Typelib

universe u

variable {σ : Type u}

namespace Generator

/-! ## Requests that look modules up in the store only -/

section LookUp

variable {env : Environment σ} {store : Store σ} {located : Located} {library : Library}
  {wrapper m : Module} {g : Generator σ} {designator : Designator} {base : Option Path}

theorem ensureWrapper_stored (env : Environment σ)
    (hnew : g.resident.get? located.library.identity.wrapperName = none)
    (hfound : store.load g.world located.library.identity.wrapperName = .hit m) :
    g.ensureWrapper env store located = (.ok (m, []), g.countStored.keep m) := by
  have hstale : ∀ r, g.resident.get? located.library.identity.wrapperName = some r → ¬true = true :=
    fun r hr => by rw [hnew] at hr; cases hr
  simp only [ensureWrapper, lookup_stored hstale hfound rfl]

theorem ensureFriendly_stored {name : ModuleName}
    (hname : library.friendlyName = .ok (some name)) (hnew : g.resident.get? name = none)
    (hfound : store.load g.world name = .hit m) (htext : m.text = friendlyText wrapper.name) :
    g.ensureFriendly store library wrapper = (.ok (some m), g.countStored.keep m) := by
  have hstale : ∀ r, g.resident.get? name = some r →
      ¬decide (r.text = friendlyText wrapper.name) = true :=
    fun r hr => by rw [hnew] at hr; cases hr
  have haccept : decide (m.text = friendlyText wrapper.name) = true := decide_eq_true htext
  simp only [ensureFriendly, Environment.friendlyName, hname,
    lookup_stored hstale hfound haccept]

/-- Where nothing is resident and the modules of a library are stored, a request looks them up and
does nothing else. -/
theorem request_of_stored (hnew : ∀ name, g.resident.get? name = none)
    (hopens : (g.openStore env).1 = store)
    (hlocate : env.locate (g.openStore env).2.world designator base = .ok located)
    (h : Answered (fun name m => store.load (g.openStore env).2.world name = .hit m)
      located.library m) :
    ∃ after, g.request env designator base = (.ok m, after) ∧
      after.world = (g.openStore env).2.world ∧
      after.stats = { g.stats with
        storeHits := g.stats.storeHits + located.library.moduleCount } := by
  subst hopens
  rw [← openStore_resident env] at hnew
  rw [← openStore_stats env]
  cases h with
  | wrapper hname hwrapper =>
    have hstep := ensureWrapper_stored env (hnew _) hwrapper
    rw [request_of_wrapper hlocate hstep, ensureFriendly_nameless _ _ _ hname,
      moduleCount_of_none hname]
    exact ⟨_, rfl, rfl, rfl⟩
  | @friendly name wrapper _ hname hwrapper hown hfriendly htext =>
    have hstep := ensureWrapper_stored env (hnew _) hwrapper
    rw [← hown] at htext
    have hother : ((g.openStore env).2.countStored.keep wrapper).resident.get? name = none := by
      rw [resident_keep, hown, if_neg (friendlyName_ne_wrapperName hname _)]
      exact hnew name
    rw [request_of_wrapper hlocate hstep, ensureFriendly_stored hname hother hfriendly htext,
      moduleCount_of_some hname]
    exact ⟨_, rfl, rfl, rfl⟩

end LookUp

/-! ## A second generator -/

/-- The modules that answer the request of a generator that had done nothing are stored. -/
theorem answered_stored {env : Environment σ} {store : Store σ} {worlds : σ → Prop} {world : σ}
    {destination : Destination σ} {designator : Designator} {base : Option Path}
    {located : Located} {m : Module} (hstore : store.Retentive worlds)
    (hfaithful : store.Faithful fun _ => True)
    (hfixes : destination.Fixes env.openStore world store worlds)
    (hlocate : env.locate ((start world destination).openStore env).2.world designator base =
      .ok located)
    (hanswer : ((start world destination).request env designator base).1 = .ok m) :
    Answered (fun name m => IsIdentifier name.member ∧
      store.load ((start world destination).request env designator base).2.world name = .hit m)
      located.library m := by
  have hopens : ((start world destination).openStore env).1 = store := by
    rw [openStore_eq]
    exact hfixes.opens
  have hown : (start world destination).OwnNames := nofun
  have hstep := serve_step env designator base (start world destination)
  rw [hopens] at hstep
  have hagrees := start_agrees designator base hstore hfixes
  exact (hstep.answered hstore.named hfaithful (hown.openStore env) hlocate hanswer).mono
    fun hm => ⟨hagrees.identifier hm, hagrees.stored hm⟩

/-- A request leaves the store that later ones work with. -/
theorem fixed_request {number : Nat} {w : World} {destination : Destination World}
    {store : Store World} {env : Environment World} (designator : Designator) (base : Option Path)
    (henv : env.openStore = World.openStore number)
    (hfixed : World.Fixed number w destination store) :
    World.Fixed number ((start w destination).request env designator base).2.world destination
      store := by
  obtain ⟨worlds, hstore, hfixes, hlater⟩ := hfixed.fixes
  rw [← henv] at hfixes
  exact hlater (start_agrees designator base hstore hfixes).world

/-- If a generator that had done nothing has answered a request, one that has done nothing and works
with the store that was left answers a request for the same library with the same module.  It looks
the modules of the library up in the store, reads and generates nothing, and leaves the store as it
is, whatever was stored in the first place. -/
theorem warm_start {number number' : Nat} {w : World} {destination destination' : Destination World}
    {store : Store World} {env env' : Environment World} {designator designator' : Designator}
    {base base' : Option Path} {located located' : Located} {m : Module}
    (henv : env.openStore = World.openStore number)
    (henv' : env'.openStore = World.openStore number')
    (hfixed : World.Fixed number w destination store)
    (hlocate : env.locate ((start w destination).openStore env).2.world designator base =
      .ok located)
    (hanswer : ((start w destination).request env designator base).1 = .ok m)
    (hfixed' : World.Fixed number' ((start w destination).request env designator base).2.world
      destination' store)
    (hlocate' : env'.locate ((start ((start w destination).request env designator base).2.world
      destination').openStore env').2.world designator' base' = .ok located')
    (hidentity : located'.library.identity = located.library.identity)
    (hname : located'.library.declaredName = located.library.declaredName) :
    let left := ((start w destination).request env designator base).2.world
    let opened := ((start left destination').openStore env').2.world
    ∃ after, (start left destination').request env' designator' base' = (.ok m, after) ∧
      after.stats = ⟨0, 0, 0, 0, located.library.moduleCount⟩ ∧
      after.world = opened ∧
      (∀ name, IsIdentifier name.member → store.load opened name = store.load left name) ∧
      (destination' = destination → number' = number → opened = left) := by
  intro left opened
  obtain ⟨worlds, hstore, hfixes, -⟩ := hfixed.fixes
  obtain ⟨worlds', -, hfixes', -⟩ := hfixed'.fixes
  rw [← henv] at hfixes
  rw [← henv'] at hfixes'
  have hstored := answered_stored hstore hfixed.faithful hfixes hlocate hanswer
  have hopened : opened = (destination'.opened env'.openStore left).2 := by
    simp only [opened, openStore_eq]
    rfl
  have hopens : ((start left destination').openStore env').1 = store := by
    rw [openStore_eq]
    exact hfixes'.opens
  -- there is a stored module, so opening the store changes no module
  obtain ⟨wrapper, hidentifier, hwrapper⟩ := hstored.exists_wrapper
  have hsame : ∀ name, IsIdentifier name.member →
      store.load opened name = store.load left name := by
    intro name hname
    rw [hopened]
    exact hfixes'.same hidentifier hname hwrapper
  have hthere : Answered (fun name m => store.load opened name = .hit m) located'.library m :=
    (hstored.mono fun hm => (hsame _ hm.1).trans hm.2).congr hidentity hname
  obtain ⟨after, hrequest, hworld, hstats⟩ :=
    request_of_stored (fun _ => rfl) hopens hlocate' hthere
  refine ⟨after, hrequest, ?_, hworld, hsame, ?_⟩
  · rw [hstats, moduleCount_congr hname]
    simp [start, Stats.zero]
  · rintro rfl rfl
    have hleft := (start_agrees designator base hstore hfixes).world
    rw [hopened, henv', ← henv, hfixes.rests hleft]

/-- A library with a friendly name that is loaded already, with modules in memory and in a directory
that was empty. -/
theorem warm_start_loaded :
    let library : Library := ⟨{ Descriptor.bare ⟨⟨1⟩, 1, 0, 0⟩ with name := some "Shared" }, none⟩
    let env : Environment World := .ofLoader ⟨.empty, []⟩ .standard 0
    let first := (start ⟨⟨.empty, none⟩, [.empty]⟩ (.configured none)).request env
      (.loaded library) none
    let firstThere := (start .bare (.configured (some ⟨"/gen"⟩))).request env (.loaded library) none
    (∃ m after, first.1 = .ok m ∧
      (start first.2.world (.configured none)).request env (.loaded library) none = (.ok m, after) ∧
      after.stats = ⟨0, 0, 0, 0, 2⟩ ∧ after.world = first.2.world) ∧
    ∃ m after, firstThere.1 = .ok m ∧
      (start firstThere.2.world (.configured (some ⟨"/gen"⟩))).request env (.loaded library) none =
        (.ok m, after) ∧
      after.stats = ⟨0, 0, 0, 0, 2⟩ ∧ after.world = firstThere.2.world := by
  intro library env first firstThere
  have hshared : library.friendlyName = .ok (some ⟨"Shared"⟩) := by decide
  have hread : library.descriptor.items = .ok .empty := rfl
  have henv : env.openStore = World.openStore 0 := rfl
  have hlocate : ∀ w, env.locate w (.loaded library) none = .ok ⟨library, none⟩ := fun _ => rfl
  -- world and store are left open here, lest requests be carried out where terms are compared
  have hany : ∀ (w : World) (destination : Destination World) (store : Store World)
      (worlds : World → Prop), World.Fixed 0 w destination store →
      destination.Fixes (World.openStore 0) w store worlds → store.Serves worlds library →
      ∀ first, first = (start w destination).request env (.loaded library) none →
      ∃ m after, first.1 = .ok m ∧
        (start first.2.world destination).request env (.loaded library) none = (.ok m, after) ∧
        after.stats = ⟨0, 0, 0, 0, 2⟩ ∧ after.world = first.2.world := by
    rintro w destination store worlds hfixed hfixes hserves _ rfl
    obtain ⟨m, hm⟩ := loaded_answered_of_serves ⟨.empty, []⟩ .standard 0 (openStore_start hfixes)
      hfixes.leads hserves hread hshared
    have hfixed' := fixed_request (.loaded library) none henv hfixed
    obtain ⟨after, hrequest, hstats, hworld, -, hopened⟩ :=
      warm_start henv henv hfixed (hlocate _) hm hfixed' (hlocate _) rfl rfl
    rw [moduleCount_of_some hshared] at hstats
    exact ⟨m, after, hm, hrequest, hstats, hworld.trans (hopened rfl rfl)⟩
  refine ⟨hany ⟨⟨.empty, none⟩, [.empty]⟩ _ _ _ (.memory Nat.zero_lt_one)
    (World.memory_fixes trivial) (memory_serves 0 library) first rfl, ?_⟩
  obtain ⟨loc, hfixes, -⟩ := World.fixes_of_empty 0 World.entries_bare World.prepare_bare
  have hserves : (World.directory ⟨⟨"/gen"⟩⟩).Serves (World.IsHeld ⟨⟨"/gen"⟩⟩ loc) library :=
    directory_serves_of_name loc hshared (by decide) (by decide)
  exact hany .bare _ _ _ (.directory World.prepare_bare) hfixes hserves firstThere rfl

end Generator

end Typelib
