import Typelib.Proofs.Generator.History
import Typelib.Proofs.Generator.Shelf

/-!
# What an answer depends on

A `View` is what a request sees of the library it asks for and of the modules there are; nothing of
any other library is in it.  Where commits succeed, the answer of a request is that of its view
(`request_content`), although the libraries that are taken up in between may put modules in place
of resident and stored ones, even under the friendly name that is looked for last: whatever is there
under that name, only the right text is accepted.  So two requests with one view get one answer,
whatever becomes of the other libraries (`answer_independent`).
-/

namespace Typelib

universe u v

variable {σ : Type u} {τ : Type v}

/-- In a set of worlds a store keeps modules apart and keeps their texts, and the commits of the two
modules of a library succeed. -/
structure Store.Serves (store : Store σ) (worlds : σ → Prop) (library : Library) : Prop where
  lawful : store.Lawful worlds
  faithful : store.Faithful worlds
  wrapper : store.Commits worlds library.identity.wrapperName
  friendly : ∀ {name}, library.friendlyName = .ok (some name) → store.Commits worlds name

/-- The name and the text of a module. -/
def Module.content (m : Module) : ModuleName × String := (m.name, m.text)

/-! ## Views -/

/-- What a request sees: the library asked for and its items, the known symbols, and the resident
and the stored modules. -/
structure View where
  root : Except RequestError (Located × Except CorruptDescriptor Items)
  known : Symbols
  resident : Table ModuleName Module
  stored : ModuleName → Lookup

namespace View

variable (v : View)

/-- The text of a library's wrapper: that of the resident or of the stored one, or else the one
that its items give. -/
def wrapperText (located : Located) (items : Except CorruptDescriptor Items) :
    Except RequestError String :=
  match v.resident.get? located.library.identity.wrapperName,
    v.stored located.library.identity.wrapperName, items with
  | some m, _, _ => .ok m.text
  | none, .hit m, _ => .ok m.text
  | none, _, .error e => .error (.corrupt e)
  | none, _, .ok items =>
    .ok (Wrapper.ofItems located.library.identity items v.known located.source).text

variable {v} {located : Located}

theorem wrapperText_resident {m : Module} (items : Except CorruptDescriptor Items)
    (h : v.resident.get? located.library.identity.wrapperName = some m) :
    v.wrapperText located items = .ok m.text := by
  simp only [wrapperText, h]

theorem wrapperText_stored {m : Module} (items : Except CorruptDescriptor Items)
    (hnew : v.resident.get? located.library.identity.wrapperName = none)
    (h : v.stored located.library.identity.wrapperName = .hit m) :
    v.wrapperText located items = .ok m.text := by
  simp only [wrapperText, hnew, h]

theorem wrapperText_missing {items : Except CorruptDescriptor Items}
    (hnew : v.resident.get? located.library.identity.wrapperName = none)
    (habsent : ∀ m, v.stored located.library.identity.wrapperName ≠ .hit m) :
    v.wrapperText located items =
      match items with
      | .error e => .error (.corrupt e)
      | .ok items =>
        .ok (Wrapper.ofItems located.library.identity items v.known located.source).text := by
  rcases hstored : v.stored located.library.identity.wrapperName with m | _ | fault
  · exact absurd hstored (habsent m)
  · cases items <;> simp only [wrapperText, hnew, hstored]
  · cases items <;> simp only [wrapperText, hnew, hstored]

/-- The name and the text that a library's friendly name stands for, if it has one. -/
def friendlyContent (library : Library) :
    Except RequestError (Option (ModuleName × String)) :=
  (Environment.friendlyName library).map fun name =>
    name.map fun name => (name, friendlyText library.identity.wrapperName)

theorem friendlyContent_of_name {library : Library} {name : ModuleName}
    (h : library.friendlyName = .ok (some name)) :
    friendlyContent library = .ok (some (name, friendlyText library.identity.wrapperName)) := by
  simp only [friendlyContent, Environment.friendlyName, h, Except.map, Option.map_some]

/-- The name and the text of the module that answers a request, or why there is none. -/
def answer (v : View) : Except RequestError (ModuleName × String) :=
  v.root.bind fun (located, items) =>
    (v.wrapperText located items).bind fun text =>
      (friendlyContent located.library).map fun friendly =>
        friendly.getD (located.library.identity.wrapperName, text)

theorem answer_unlocated {e : RequestError} (h : v.root = .error e) : v.answer = .error e := by
  rw [answer, h]
  rfl

section Located

variable {items : Except CorruptDescriptor Items} (hroot : v.root = .ok (located, items))

include hroot

theorem answer_failed {e : RequestError} (h : v.wrapperText located items = .error e) :
    v.answer = .error e := by
  rw [answer, hroot]
  simp only [Except.bind, h]

theorem answer_finished {text : String} (h : v.wrapperText located items = .ok text) :
    v.answer = (friendlyContent located.library).map fun friendly =>
      friendly.getD (located.library.identity.wrapperName, text) := by
  rw [answer, hroot]
  simp only [Except.bind, h]

end Located

end View

namespace Generator

/-- What a request sees once its store is open. -/
def view (env : Environment σ) (designator : Designator) (base : Option Path) (g : Generator σ) :
    View :=
  let (store, g) := g.openStore env
  { root := (env.locate g.world designator base).map fun located =>
      (located, env.items located.library)
    known := env.known
    resident := g.resident
    stored := store.load g.world }

/-! ## Resident modules go by their own names -/

/-- Every resident module is the one of its own name. -/
def OwnNames (g : Generator σ) : Prop := ∀ name m, g.resident.get? name = some m → m.name = name

/-- What a generator that had done nothing can have become. -/
def Reachable (g : Generator σ) : Prop :=
  ∃ (actions : List (Action σ)) (world : σ) (destination : Destination σ),
    g = run actions (.start world destination)

section OwnNames

variable {env : Environment σ} {store : Store σ} {g after : Generator σ}

theorem OwnNames.keep (h : g.OwnNames) (m : Module) : (g.keep m).OwnNames := by
  intro name other hother
  rw [resident_keep] at hother
  split at hother
  · cases hother
    exact Eq.symm ‹_›
  · exact h name other hother

theorem Moves.ownNames (h : Moves store g after) (hown : g.OwnNames) : after.OwnNames := by
  induction h with
  | refl => exact hown
  | tail _ hmove ih =>
    cases hmove with
    | count stats => exact ih
    | fetch hname hfree hfound => exact ih.keep _
    | commit hname hfree hnone hcommit => exact OwnNames.keep ih _
    | refuse hname hfree hnone hcommit => exact ih

theorem OwnNames.openStore (h : g.OwnNames) (env : Environment σ) :
    (g.openStore env).2.OwnNames := by
  unfold Generator.openStore
  split <;> exact h

theorem Action.ownNames {action : Action σ} (h : g.OwnNames) : (action.run g).OwnNames := by
  cases action with
  | request env designator base =>
    exact (serve_moves env designator base g).ownNames (h.openStore env)
  | configure directory => exact h
  | change world => exact h

theorem Reachable.ownNames (h : g.Reachable) : g.OwnNames := by
  obtain ⟨actions, world, destination, rfl⟩ := h
  have hrun : ∀ {actions : List (Action σ)} {g : Generator σ}, g.OwnNames →
      (run actions g).OwnNames := by
    intro actions
    induction actions with
    | nil => exact fun h => h
    | cons action rest ih => exact fun h => ih (Action.ownNames h)
  refine hrun fun name m hm => ?_
  cases hm

end OwnNames

/-! ## One request -/

section Request

variable {env : Environment σ} {store : Store σ} {worlds : σ → Prop} {located : Located}
  {library : Library} {wrapper : Module} {events : List Event} {g : Generator σ}

/-- The wrapper has the name of the library's wrapper and the text that the view gives. -/
theorem WrapperStep.content {r : Except RequestError (Module × List Identity) × Generator σ}
    (h : WrapperStep env store located g events r) (hstore : store.Serves worlds located.library)
    (hworld : worlds g.world) (hown : g.OwnNames) {v : View} (hknown : v.known = env.known)
    (hresident : v.resident = g.resident) (hstored : v.stored = store.load g.world) :
    r.1.map (fun answer => answer.1.content) =
      (v.wrapperText located (env.items located.library)).map fun text =>
        (located.library.identity.wrapperName, text) := by
  have hname := located.library.identity.wrapperName_isIdentifier
  cases h with
  | @resident m hfound =>
    rw [View.wrapperText_resident _ (hresident ▸ hfound)]
    simp only [Except.map, Module.content, hown _ m hfound]
  | @stored m hnew hfound =>
    rw [View.wrapperText_stored _ (hresident ▸ hnew) (hstored ▸ hfound)]
    simp only [Except.map, Module.content, hstore.lawful.named.load_name hfound]
  | corrupt hnew habsent hread =>
    rw [View.wrapperText_missing (hresident ▸ hnew) (hstored ▸ habsent), hread]
    rfl
  | refused hnew habsent hread hcommit =>
    obtain ⟨m, after, hdone⟩ := hstore.wrapper g.world hworld (env.wrapperText located _)
    rw [hdone] at hcommit
    cases hcommit
  | @generated items m world hnew habsent hread hcommit =>
    rw [View.wrapperText_missing (hresident ▸ hnew) (hstored ▸ habsent), hread]
    have hmodule : m.content = (located.library.identity.wrapperName,
        env.wrapperText located items) :=
      Prod.ext (hstore.lawful.named.commit_name hcommit)
        (hstore.faithful.text_eq hworld hname hcommit)
    simp only [Except.map, hmodule, Environment.wrapperText, hknown]

/-- The friendly module has its name and the text that passes on the wrapper, and it is the
resident module of its name afterwards. -/
theorem FriendlyStep.content {r : Except RequestError (Option Module) × Generator σ}
    (h : FriendlyStep store library wrapper g events r) (hstore : store.Serves worlds library)
    (hworld : worlds g.world) (hown : g.OwnNames)
    (hwrapper : wrapper.name = library.identity.wrapperName) :
    r.1.map (Option.map Module.content) = View.friendlyContent library ∧
      ∀ name m, library.friendlyName = .ok (some name) → r.1 = .ok (some m) →
        r.2.resident.get? name = some m := by
  -- whichever way a module is come by, it has the name and the text that were looked for
  have hfound {name : ModuleName} {m : Module} {after : Generator σ}
      (hfriendly : library.friendlyName = .ok (some name)) (hname : m.name = name)
      (htext : m.text = friendlyText wrapper.name) (hresident : after.resident.get? name = some m) :
      (Except.ok (some m)).map (Option.map Module.content) = View.friendlyContent library ∧
        ∀ other k, library.friendlyName = .ok (some other) →
          Except.ok (some m) = (.ok (some k) : Except RequestError (Option Module)) →
          after.resident.get? other = some k := by
    constructor
    · rw [View.friendlyContent_of_name hfriendly]
      simp only [Except.map, Option.map_some, Module.content, hname, htext, hwrapper]
    · intro other k hother hk
      rw [hfriendly] at hother
      cases hother
      cases hk
      exact hresident
  cases h with
  | collision hname =>
    simp [View.friendlyContent, Environment.friendlyName, hname, Except.map]
  | nameless hname =>
    simp [View.friendlyContent, Environment.friendlyName, hname, Except.map]
  | resident hname hresident htext =>
    exact hfound hname (hown _ _ hresident) htext hresident
  | @stored name m hname hstale hstored htext =>
    have hm := hstore.lawful.named.load_name hstored
    exact hfound hname hm htext (by rw [resident_keep, if_pos hm.symm])
  | @refused name e world hname hstale habsent hcommit =>
    obtain ⟨m, after, hdone⟩ := hstore.friendly hname g.world hworld (friendlyText wrapper.name)
    rw [hdone] at hcommit
    cases hcommit
  | @generated name m world hname hstale habsent hcommit =>
    have hm := hstore.lawful.named.commit_name hcommit
    have htext := hstore.faithful.text_eq hworld (friendlyName_isIdentifier hname) hcommit
    refine hfound hname hm htext ?_
    show ({ g with world }.keep m).resident.get? name = some m
    rw [resident_keep, if_pos hm.symm]

theorem answer_finished (wrapper : Module) (externals : List Identity)
    (r : Except RequestError (Option Module)) :
    (Outcome.finished wrapper externals r).answer =
      r.map fun friendly => friendly.getD wrapper := by
  cases r <;> rfl

/-- A request that gets as far as the friendly module answers that one, or the wrapper if there is
none. -/
theorem FriendlyStep.answer {r : Except RequestError (Option Module) × Generator σ}
    (h : FriendlyStep store library wrapper g events r) (hstore : store.Serves worlds library)
    (hworld : worlds g.world) (hown : g.OwnNames)
    (hwrapper : wrapper.name = library.identity.wrapperName) (externals : List Identity) :
    (Outcome.finished wrapper externals r.1).answer.map Module.content =
        (View.friendlyContent library).map (fun friendly => friendly.getD wrapper.content) ∧
      ∀ name m, library.friendlyName = .ok (some name) →
        (Outcome.finished wrapper externals r.1).answer = .ok m →
        m.content = (name, friendlyText library.identity.wrapperName) ∧
          r.2.resident.get? name = some m := by
  obtain ⟨hcontent, hlast⟩ := h.content hstore hworld hown hwrapper
  rw [answer_finished]
  constructor
  · rw [← hcontent]
    rcases r.1 with e | _ | m <;> rfl
  · intro name m hname hm
    rw [View.friendlyContent_of_name hname] at hcontent
    rcases hr : r.1 with e | _ | k
    · rw [hr] at hcontent
      cases hcontent
    · rw [hr] at hcontent
      cases hcontent
    · rw [hr] at hcontent hm
      obtain rfl : k = m := Except.ok.inj hm
      exact ⟨Option.some.inj (Except.ok.inj hcontent), hlast name k hname hr⟩

/-- A request answers what its view gives, and a friendly module that it answers is the resident
one of its name afterwards. -/
theorem ServeStep.content {designator : Designator} {base : Option Path} {served : Served σ}
    (h : ServeStep env store designator base g events served)
    (hstore : ∀ located, env.locate g.world designator base = .ok located →
      store.Serves worlds located.library)
    (hworld : worlds g.world) (hown : g.OwnNames) {v : View}
    (hroot : v.root = (env.locate g.world designator base).map fun located =>
      (located, env.items located.library))
    (hknown : v.known = env.known) (hresident : v.resident = g.resident)
    (hstored : v.stored = store.load g.world) :
    served.root.answer.map Module.content = v.answer ∧
      ∀ located name m, env.locate g.world designator base = .ok located →
        located.library.friendlyName = .ok (some name) → served.root.answer = .ok m →
        m.content = (name, friendlyText located.library.identity.wrapperName) ∧
          served.generator.resident.get? name = some m := by
  cases h with
  | unlocated hlocate =>
    rw [hlocate] at hroot
    refine ⟨(View.answer_unlocated hroot).symm, fun located name m hok => ?_⟩
    rw [hlocate] at hok
    cases hok
  | failed hlocate hwrapper =>
    have hcontent := hwrapper.content (hstore _ hlocate) hworld hown hknown hresident hstored
    rw [hlocate] at hroot
    refine ⟨?_, fun located name m _ _ hanswer => by cases hanswer⟩
    rcases htext : v.wrapperText _ (env.items _) with e | text
    · rw [htext] at hcontent
      rw [View.answer_failed hroot htext]
      exact congrArg Except.error (Except.error.inj hcontent)
    · rw [htext] at hcontent
      cases hcontent
  | @finished located _ _ wrapper externals between chased r hlocate hwrapper hchase hfriendly =>
    have hstore := hstore _ hlocate
    have hcontent := hwrapper.content hstore hworld hown hknown hresident hstored
    -- whatever the libraries taken up in between have done, resident modules go by their names
    have hvisits := (Taken.of_chaseFrom hchase).moves
    have hchased : chased.2.OwnNames := hvisits.ownNames (hwrapper.moves.ownNames hown)
    have hworldChased : worlds chased.2.world :=
      hvisits.worlds hstore.lawful (hwrapper.moves.worlds hstore.lawful hworld)
    rcases htext : v.wrapperText located (env.items located.library) with e | text
    · rw [htext] at hcontent
      cases hcontent
    · rw [htext] at hcontent
      have hwrapperContent : wrapper.content = (located.library.identity.wrapperName, text) :=
        Except.ok.inj hcontent
      obtain ⟨hanswer, hlast⟩ := hfriendly.answer hstore hworldChased hchased
        (congrArg Prod.fst hwrapperContent) externals
      refine ⟨?_, fun other name m hother hname hm => ?_⟩
      · rw [hlocate] at hroot
        rw [View.answer_finished hroot htext, ← hwrapperContent]
        exact hanswer
      · obtain rfl : located = other := Except.ok.inj (hlocate.symm.trans hother)
        exact hlast name m hname hm

end Request

/-! ## Two requests -/

/-- A friendly module that a request answers passes on the wrapper of the library asked for, and
is the resident module of its name afterwards. -/
def AnswersFriendly (env : Environment σ) (designator : Designator) (base : Option Path)
    (g : Generator σ) : Prop :=
  ∀ located name m, env.locate (g.openStore env).2.world designator base = .ok located →
    located.library.friendlyName = .ok (some name) → (g.request env designator base).1 = .ok m →
    m.name = name ∧ m.text = friendlyText located.library.identity.wrapperName ∧
      (g.request env designator base).2.resident.get? name = some m

/-- Once its store is open, a request can commit the two modules of the library it asks for. -/
def CanServe (env : Environment σ) (designator : Designator) (base : Option Path)
    (g : Generator σ) : Prop :=
  ∃ worlds : σ → Prop, worlds (g.openStore env).2.world ∧
    ∀ located, env.locate (g.openStore env).2.world designator base = .ok located →
      (g.openStore env).1.Serves worlds located.library

/-- Where its commits succeed, a request answers what its view gives. -/
theorem request_content {env : Environment σ} {designator : Designator} {base : Option Path}
    {g : Generator σ} (hreach : g.Reachable) (hserve : g.CanServe env designator base) :
    (g.request env designator base).1.map Module.content =
        (g.view env designator base).answer ∧
      g.AnswersFriendly env designator base := by
  obtain ⟨worlds, hworld, hstore⟩ := hserve
  have hstep := serve_step env designator base g
  obtain ⟨hanswer, hfriendly⟩ := hstep.content hstore hworld
    (hreach.ownNames.openStore env) (v := g.view env designator base) rfl rfl rfl rfl
  refine ⟨hanswer, fun located name m hlocate hname hm => ?_⟩
  obtain ⟨hcontent, hresident⟩ := hfriendly located name m hlocate hname hm
  exact ⟨congrArg Prod.fst hcontent, congrArg Prod.snd hcontent, hresident⟩

/-- Two requests that see the same, namely what the designator leads to and the modules there are,
get the same answer up to the backing of the module, or fail for the same reason, however the
worlds and the environments differ otherwise.  A friendly module that they answer passes on the
wrapper of the library asked for and is resident under its name in the end. -/
theorem answer_independent {env₁ : Environment σ} {env₂ : Environment τ} {g₁ : Generator σ}
    {g₂ : Generator τ} (designator : Designator) (base : Option Path) (hreach₁ : g₁.Reachable)
    (hreach₂ : g₂.Reachable) (hserve₁ : g₁.CanServe env₁ designator base)
    (hserve₂ : g₂.CanServe env₂ designator base)
    (hview : g₁.view env₁ designator base = g₂.view env₂ designator base) :
    (g₁.request env₁ designator base).1.map Module.content =
        (g₂.request env₂ designator base).1.map Module.content ∧
      g₁.AnswersFriendly env₁ designator base ∧ g₂.AnswersFriendly env₂ designator base := by
  obtain ⟨hanswer₁, hfriendly₁⟩ := request_content hreach₁ hserve₁
  obtain ⟨hanswer₂, hfriendly₂⟩ := request_content hreach₂ hserve₂
  exact ⟨hanswer₁.trans ((congrArg View.answer hview).trans hanswer₂.symm), hfriendly₁, hfriendly₂⟩

end Generator

/-! ## Libraries on a shelf -/

namespace Shelf

open Generator

theorem reachable_fresh (libraries : List Descriptor) : (fresh libraries).Reachable :=
  ⟨[], _, _, rfl⟩

/-- The store of a shelf can serve every library. -/
theorem canServe_fresh (libraries : List Descriptor) (designator : Designator)
    (base : Option Path) : (fresh libraries).CanServe environment designator base :=
  ⟨fun w => w.libraries = libraries, rfl, fun _ _ =>
    { lawful := store_lawful libraries
      faithful := store_faithful libraries
      wrapper := store_commits libraries (Identity.wrapperName_isIdentifier _)
      friendly := fun hname => store_commits libraries (friendlyName_isIdentifier hname) }⟩

/-- A request on a fresh shelf sees the library it asks for only. -/
theorem view_fresh {libraries : List Descriptor} {i : Identity} {d : Descriptor}
    (h : find libraries i = some d) :
    (fresh libraries).view environment (.exact i) none =
      ⟨.ok (⟨⟨d, none⟩, none⟩, d.items), .standard, .empty, fun _ => .absent⟩ := by
  have hlocate : environment.locate ⟨libraries, .empty⟩ (.exact i) none =
      .ok ⟨⟨d, none⟩, none⟩ := locate_exact h
  simp only [view, fresh, Generator.openStore, start, hlocate]
  rfl

/-- A library with a friendly name that can be read gets its friendly module. -/
theorem answer_fresh {libraries : List Descriptor} {i : Identity} {d : Descriptor}
    (h : find libraries i = some d) {items : Items} (hread : d.items = .ok items)
    {name : ModuleName} (hname : friendlyName d.declaredName = .ok (some name)) :
    ∃ m, ((fresh libraries).request environment (.exact i) none).1 = .ok m ∧
      m.content = (name, friendlyText d.identity.wrapperName) := by
  have hcontent := (request_content (reachable_fresh libraries)
    (canServe_fresh libraries (.exact i) none)).1
  have hanswer : ((fresh libraries).view environment (.exact i) none).answer =
      .ok (name, friendlyText d.identity.wrapperName) := by
    have htext : (View.mk (.ok (⟨⟨d, none⟩, none⟩, .ok items)) .standard .empty
        fun _ => .absent).wrapperText ⟨⟨d, none⟩, none⟩ (.ok items) = .ok _ :=
      View.wrapperText_missing rfl nofun
    have hfriendly : Library.friendlyName ⟨d, none⟩ = .ok (some name) := hname
    rw [view_fresh h, hread, View.answer_finished rfl htext,
      View.friendlyContent_of_name hfriendly]
    rfl
  rw [hanswer] at hcontent
  rcases hrequest : ((fresh libraries).request environment (.exact i) none).1 with e | m
  · rw [hrequest] at hcontent
    cases hcontent
  · rw [hrequest] at hcontent
    exact ⟨m, rfl, Except.ok.inj hcontent⟩

/-- The library asked for refers to another one, which has the same name or is missing. -/
theorem answer_independent_shared :
    let i : Identity := ⟨⟨10#128⟩, 1, 0, 0⟩
    let e : Identity := ⟨⟨11#128⟩, 1, 0, 0⟩
    let root := referring (some "Shared") i e
    let other : Descriptor := { Descriptor.bare e with name := some "Shared" }
    let both := fresh [root, other]
    let alone := fresh [root]
    e ∈ root.references ∧ other.declaredName = root.declaredName ∧
      ∃ m m', (both.request environment (.exact i) none).1 = .ok m ∧
        (alone.request environment (.exact i) none).1 = .ok m' ∧ m.content = m'.content ∧
        m.name = ⟨"Shared"⟩ ∧ m.text = friendlyText i.wrapperName ∧
        (both.request environment (.exact i) none).2.resident.get? ⟨"Shared"⟩ = some m := by
  intro i e root other both alone
  have hrefers : e ∈ root.references := by decide +kernel
  obtain ⟨items, hread, -⟩ := Descriptor.mem_references.mp hrefers
  have hname : friendlyName root.declaredName = .ok (some ⟨"Shared"⟩) := by decide
  have hfind : find [root, other] i = some root := rfl
  have halone : find [root] i = some root := rfl
  have hview : both.view environment (.exact i) none = alone.view environment (.exact i) none :=
    (view_fresh hfind).trans (view_fresh halone).symm
  have hreach : both.Reachable := reachable_fresh _
  have hreachAlone : alone.Reachable := reachable_fresh _
  obtain ⟨hsame, hfriendly, -⟩ := answer_independent (.exact i) none hreach hreachAlone
    (canServe_fresh _ _ _) (canServe_fresh _ _ _) hview
  obtain ⟨m, hm, -⟩ : ∃ m, (both.request environment (.exact i) none).1 = .ok m ∧ _ :=
    answer_fresh hfind hread hname
  obtain ⟨m', hm', -⟩ : ∃ m, (alone.request environment (.exact i) none).1 = .ok m ∧ _ :=
    answer_fresh halone hread hname
  rw [hm, hm'] at hsame
  have hlocate : environment.locate (both.openStore environment).2.world (.exact i) none =
      .ok ⟨⟨root, none⟩, none⟩ := locate_exact hfind
  obtain ⟨hmName, hmText, hresident⟩ := hfriendly _ _ m hlocate hname hm
  exact ⟨hrefers, rfl, m, m', hm, hm', Except.ok.inj hsame, hmName, hmText, hresident⟩

end Shelf

end Typelib
