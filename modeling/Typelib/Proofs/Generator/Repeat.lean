import Typelib.Proofs.Generator.Independence

/-!
# Asking again

A request that succeeds leaves the modules that answer it resident (`ServeStep.answered`), and where
they are resident, a request for the library looks them up and does nothing else
(`request_of_resident`).  So a second request for a library gets the module of the first, whichever
designators lead to it and whatever has become of files and stores in between
(`request_repeated`).
-/

namespace Typelib

universe u

variable {σ : Type u}

/-- How many modules a library has: a wrapper and, if it has a friendly name, a friendly module. -/
def Library.moduleCount (library : Library) : Nat :=
  match library.friendlyName with
  | .ok (some _) => 2
  | .ok none | .error _ => 1

namespace Generator

/-! ## Modules that answer a request -/

/-- The modules of a library are there, and one of them answers a request for it. -/
inductive Answered (there : ModuleName → Module → Prop) (library : Library) : Module → Prop
  | wrapper {m : Module} (hname : library.friendlyName = .ok none)
      (hwrapper : there library.identity.wrapperName m) : Answered there library m
  | friendly {name : ModuleName} {wrapper m : Module}
      (hname : library.friendlyName = .ok (some name))
      (hwrapper : there library.identity.wrapperName wrapper)
      (hown : wrapper.name = library.identity.wrapperName) (hfriendly : there name m)
      (htext : m.text = friendlyText library.identity.wrapperName) : Answered there library m

section Answered

variable {there : ModuleName → Module → Prop} {library other : Library} {m : Module}

theorem Answered.mono {elsewhere : ModuleName → Module → Prop} (h : Answered there library m)
    (hthere : ∀ {name m}, there name m → elsewhere name m) : Answered elsewhere library m := by
  cases h with
  | wrapper hname hwrapper => exact .wrapper hname (hthere hwrapper)
  | friendly hname hwrapper hown hfriendly htext =>
    exact .friendly hname (hthere hwrapper) hown (hthere hfriendly) htext

/-- The identity and the declared name of a library are all that matters. -/
theorem Answered.congr (h : Answered there library m)
    (hidentity : other.identity = library.identity)
    (hname : other.declaredName = library.declaredName) : Answered there other m := by
  have hfriendlyName : other.friendlyName = library.friendlyName :=
    congrArg friendlyName hname
  cases h with
  | wrapper hnone hwrapper =>
    rw [← hfriendlyName] at hnone
    rw [← hidentity] at hwrapper
    exact .wrapper hnone hwrapper
  | friendly hsome hwrapper hown hfriendly htext =>
    rw [← hfriendlyName] at hsome
    rw [← hidentity] at hwrapper hown htext
    exact .friendly hsome hwrapper hown hfriendly htext

theorem Answered.exists_wrapper (h : Answered there library m) :
    ∃ wrapper, there library.identity.wrapperName wrapper := by
  cases h with
  | wrapper hname hwrapper => exact ⟨_, hwrapper⟩
  | friendly hname hwrapper hown hfriendly htext => exact ⟨_, hwrapper⟩

theorem moduleCount_congr (hname : other.declaredName = library.declaredName) :
    other.moduleCount = library.moduleCount := by
  have hfriendlyName : other.friendlyName = library.friendlyName :=
    congrArg friendlyName hname
  rw [Library.moduleCount, Library.moduleCount, hfriendlyName]

theorem moduleCount_of_none (h : library.friendlyName = .ok none) : library.moduleCount = 1 := by
  simp only [Library.moduleCount, h]

theorem moduleCount_of_some {name : ModuleName} (h : library.friendlyName = .ok (some name)) :
    library.moduleCount = 2 := by
  simp only [Library.moduleCount, h]

end Answered

/-! ## What a request leaves behind -/

section Leaves

variable {env : Environment σ} {store : Store σ} {located : Located} {library : Library}
  {wrapper m : Module} {externals : List Identity} {events : List Event} {g after : Generator σ}

theorem WrapperStep.found
    (h : WrapperStep env store located g events (.ok (wrapper, externals), after))
    (hnamed : store.Named) (hown : g.OwnNames) :
    after.resident.get? located.library.identity.wrapperName = some wrapper ∧
      wrapper.name = located.library.identity.wrapperName := by
  cases h with
  | resident hfound => exact ⟨hfound, hown _ _ hfound⟩
  | stored hnew hfound =>
    have hname := hnamed.load_name hfound
    exact ⟨by rw [resident_keep, if_pos hname.symm], hname⟩
  | generated hnew habsent hread hcommit =>
    have hname := hnamed.commit_name hcommit
    refine ⟨?_, hname⟩
    show (({ g.countParse with world := _ } : Generator σ).keep wrapper).resident.get? _ = _
    rw [resident_keep, if_pos hname.symm]

section Friendly

variable {r : Except RequestError (Option Module) × Generator σ}
  (h : FriendlyStep store library wrapper g events r)

include h

theorem FriendlyStep.friendlyName_of_none (hnone : r.1 = .ok none) :
    library.friendlyName = .ok none := by
  cases h with
  | nameless hname => exact hname
  | collision | resident | stored | refused | generated => cases hnone

theorem FriendlyStep.found (hnamed : store.Named) (hfaithful : store.Faithful fun _ => True)
    (hsome : r.1 = .ok (some m)) : ∃ name, library.friendlyName = .ok (some name) ∧
      r.2.resident.get? name = some m ∧ m.text = friendlyText wrapper.name := by
  cases h with
  | collision hname => cases hsome
  | nameless hname => cases hsome
  | refused hname hstale habsent hcommit => cases hsome
  | resident hname hfound htext =>
    cases hsome
    exact ⟨_, hname, hfound, htext⟩
  | stored hname hstale hfound htext =>
    cases hsome
    exact ⟨_, hname, by rw [resident_keep, if_pos (hnamed.load_name hfound).symm], htext⟩
  | @generated name _ world hname hstale habsent hcommit =>
    cases hsome
    refine ⟨name, hname, ?_,
      hfaithful.text_eq trivial (friendlyName_isIdentifier hname) hcommit⟩
    show ({ g with world }.keep m).resident.get? name = some m
    rw [resident_keep, if_pos (hnamed.commit_name hcommit).symm]

end Friendly

/-- Whatever was taken up in between, a request leaves the modules that answer it resident. -/
theorem ServeStep.answered {designator : Designator} {base : Option Path} {served : Served σ}
    (h : ServeStep env store designator base g events served) (hnamed : store.Named)
    (hfaithful : store.Faithful fun _ => True) (hown : g.OwnNames)
    (hlocate : env.locate g.world designator base = .ok located)
    (hanswer : served.root.answer = .ok m) :
    Answered (fun name m => served.generator.resident.get? name = some m) located.library m := by
  cases h with
  | unlocated hnone => cases hanswer
  | failed hlocated hwrapper => cases hanswer
  | @finished found _ _ wrapper externals between chased r hlocated hwrapper hchase hfriendly =>
    obtain rfl : found = located := Except.ok.inj (hlocated.symm.trans hlocate)
    obtain ⟨hresident, hname⟩ := hwrapper.found hnamed hown
    have hchased := (Taken.of_chaseFrom hchase).moves.resident_wrapper hnamed hresident
    have hlast := hfriendly.moves.resident_wrapper hnamed hchased
    rw [answer_finished] at hanswer
    rcases hr : r.1 with e | _ | friendly
    · rw [hr] at hanswer
      cases hanswer
    · rw [hr] at hanswer
      obtain rfl : wrapper = m := Except.ok.inj hanswer
      exact .wrapper (hfriendly.friendlyName_of_none hr) hlast
    · rw [hr] at hanswer
      obtain rfl : friendly = m := Except.ok.inj hanswer
      obtain ⟨name, hsome, hfound, htext⟩ := hfriendly.found hnamed hfaithful hr
      rw [hname] at htext
      exact .friendly hsome hlast hname hfound htext

end Leaves

/-! ## Requests that look modules up only -/

section LookUp

variable {env : Environment σ} {store : Store σ} {located : Located} {library : Library}
  {wrapper m : Module} {g after : Generator σ} {designator : Designator} {base : Option Path}

theorem ensureWrapper_resident (env : Environment σ) (store : Store σ)
    (h : g.resident.get? located.library.identity.wrapperName = some m) :
    g.ensureWrapper env store located = (.ok (m, []), g.countResident) := by
  simp only [ensureWrapper, lookup_resident (fun _ => true) h rfl]

theorem ensureFriendly_nameless (store : Store σ) (wrapper : Module) (g : Generator σ)
    (h : library.friendlyName = .ok none) :
    g.ensureFriendly store library wrapper = (.ok none, g) := by
  simp only [ensureFriendly, Environment.friendlyName, h]

theorem ensureFriendly_resident (store : Store σ) {name : ModuleName}
    (hname : library.friendlyName = .ok (some name)) (hfound : g.resident.get? name = some m)
    (htext : m.text = friendlyText wrapper.name) :
    g.ensureFriendly store library wrapper = (.ok (some m), g.countResident) := by
  have haccept : decide (m.text = friendlyText wrapper.name) = true := decide_eq_true htext
  simp only [ensureFriendly, Environment.friendlyName, hname,
    lookup_resident (fun m => m.text = friendlyText wrapper.name) hfound haccept]

/-- A wrapper that was looked up hands nothing on, so the friendly module comes next. -/
theorem request_of_wrapper
    (hlocate : env.locate (g.openStore env).2.world designator base = .ok located)
    (hwrapper : (g.openStore env).2.ensureWrapper env (g.openStore env).1 located =
      (.ok (wrapper, []), after)) :
    g.request env designator base =
      let r := after.ensureFriendly (g.openStore env).1 located.library wrapper
      (r.1.map fun friendly => friendly.getD wrapper, r.2) := by
  unfold request serve
  simp only [hlocate, hwrapper, chase, finish_eq, answer_finished]

/-- Counts look-ups answered by resident modules. -/
def countResidents (g : Generator σ) (count : Nat) : Generator σ :=
  { g with stats := { g.stats with residentHits := g.stats.residentHits + count } }

/-- Where the modules of a library are resident, a request looks them up and does nothing else. -/
theorem request_of_resident
    (hlocate : env.locate (g.openStore env).2.world designator base = .ok located)
    (h : Answered (fun name m => (g.openStore env).2.resident.get? name = some m)
      located.library m) :
    g.request env designator base =
      (.ok m, (g.openStore env).2.countResidents located.library.moduleCount) := by
  cases h with
  | wrapper hname hwrapper =>
    have hstep := ensureWrapper_resident env (g.openStore env).1 hwrapper
    rw [request_of_wrapper hlocate hstep, ensureFriendly_nameless _ _ _ hname,
      moduleCount_of_none hname]
    rfl
  | @friendly name wrapper _ hname hwrapper hown hfriendly htext =>
    have hstep := ensureWrapper_resident env (g.openStore env).1 hwrapper
    rw [← hown] at htext
    have hfound : (g.openStore env).2.countResident.resident.get? name = some m := hfriendly
    rw [request_of_wrapper hlocate hstep, ensureFriendly_resident _ hname hfound htext,
      moduleCount_of_some hname]
    rfl

end LookUp

/-! ## Two requests for one library -/

/-- An action that is no request. -/
def Action.IsIdle : Action σ → Prop
  | request .. => False
  | configure _ | change _ => True

section Twice

variable {env : Environment σ} {g : Generator σ}

/-- A change of the destination, of files or of stores does not concern what is resident. -/
theorem run_idle {actions : List (Action σ)} (hidle : ∀ action ∈ actions, action.IsIdle) :
    (run actions g).resident = g.resident ∧ (run actions g).stats = g.stats := by
  induction actions generalizing g with
  | nil => exact ⟨rfl, rfl⟩
  | cons action rest ih =>
    rw [List.forall_mem_cons] at hidle
    obtain ⟨haction, hrest⟩ := hidle
    cases action with
    | request env designator base => exact haction.elim
    | configure directory => exact ih hrest
    | change world => exact ih hrest

/-- A request for a library that has just been answered gets the same module again, whatever
designator leads to the library, and whatever has happened to files, stores and the destination in
between.  It commits nothing, leaves the resident modules as they are, and counts nothing but its
look-ups. -/
theorem request_repeated {env env' : Environment σ} {g : Generator σ} (hreach : g.Reachable)
    {designator designator' : Designator} {base base' : Option Path} {located located' : Located}
    {m : Module} {between : List (Action σ)}
    (hnamed : (g.openStore env).1.Named)
    (hfaithful : (g.openStore env).1.Faithful fun _ => True)
    (hlocate : env.locate (g.openStore env).2.world designator base = .ok located)
    (hanswer : (g.request env designator base).1 = .ok m)
    (hidle : ∀ action ∈ between, action.IsIdle)
    (hlocate' : env'.locate ((run between (g.request env designator base).2).openStore env').2.world
      designator' base' = .ok located')
    (hidentity : located'.library.identity = located.library.identity)
    (hname : located'.library.declaredName = located.library.declaredName) :
    let first := (g.request env designator base).2
    let opened := ((run between first).openStore env').2
    ∃ after, (run between first).request env' designator' base' = (.ok m, after) ∧
      after.resident = first.resident ∧ after.world = opened.world ∧
      after.stats = { first.stats with
        residentHits := first.stats.residentHits + located.library.moduleCount } := by
  intro first opened
  obtain ⟨hresident, hstats⟩ := run_idle (g := first) hidle
  have hkept : opened.resident = first.resident := (openStore_resident _ _).trans hresident
  have hcounted : opened.stats = first.stats := (openStore_stats _ _).trans hstats
  have hfirst := (serve_step env designator base g).answered hnamed hfaithful
    (hreach.ownNames.openStore env) hlocate hanswer
  have hthere : Answered (fun name m => opened.resident.get? name = some m) located'.library m := by
    rw [hkept]
    exact hfirst.congr hidentity hname
  have hrequest := request_of_resident hlocate' hthere
  rw [moduleCount_congr hname] at hrequest
  exact ⟨_, hrequest, hkept, rfl, by rw [countResidents, hcounted]⟩

end Twice

end Generator

/-! ## Libraries on a shelf -/

namespace Shelf

open Generator

/-- A library of a shelf with a friendly name is asked for by its identity, and after the shelf has
been cleared once more, as a library that is loaded. -/
theorem request_repeated_cleared :
    let i : Identity := ⟨⟨10#128⟩, 1, 0, 0⟩
    let d : Descriptor := { Descriptor.bare i with name := some "Shared" }
    let first := ((fresh [d]).request environment (.exact i) none).2
    let between : List (Action Shelf) :=
      [.change ⟨[], .empty⟩, .configure (some ⟨"/gen"⟩)]
    ∃ m after, ((fresh [d]).request environment (.exact i) none).1 = .ok m ∧
      (run between first).request environment (.loaded ⟨d, none⟩) none = (.ok m, after) ∧
      m.name = ⟨"Shared"⟩ ∧ after.resident = first.resident ∧ after.world = ⟨[], .empty⟩ ∧
      after.stats.residentHits = first.stats.residentHits + 2 := by
  intro i d first between
  have hfind : find [d] i = some d := rfl
  have hread : d.items = .ok .empty := rfl
  have hshared : friendlyName d.declaredName = .ok (some ⟨"Shared"⟩) := by decide
  obtain ⟨m, hm, hcontent⟩ := answer_fresh hfind hread hshared
  have hidle : ∀ action ∈ between, action.IsIdle := by
    simp only [between, List.forall_mem_cons]
    exact ⟨trivial, trivial, nofun⟩
  have hfaithful : store.Faithful fun _ => True :=
    (Store.memory_faithful fun _ => True).within fun _ => trivial
  have hlocate : environment.locate ((fresh [d]).openStore environment).2.world (.exact i) none =
      .ok ⟨⟨d, none⟩, none⟩ := locate_exact hfind
  have hlocate' : environment.locate ((run between first).openStore environment).2.world
      (.loaded ⟨d, none⟩) none = .ok ⟨⟨d, none⟩, none⟩ := rfl
  obtain ⟨after, hafter, hresident, hworld, hstats⟩ := request_repeated (reachable_fresh [d])
    (store_lawful [d]).named hfaithful hlocate hm hidle hlocate' rfl rfl
  have hcount : Library.moduleCount ⟨d, none⟩ = 2 := by decide
  rw [hcount] at hstats
  have hopened : ((run between first).openStore environment).2.world = ⟨[], .empty⟩ := rfl
  have hname : m.name = ⟨"Shared"⟩ := congrArg Prod.fst hcontent
  have hhits : after.stats.residentHits = first.stats.residentHits + 2 := by rw [hstats]
  exact ⟨m, after, hm, hafter, hname, hresident, hworld.trans hopened, hhits⟩

end Shelf

end Typelib
