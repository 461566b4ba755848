import Typelib.Proofs.Generator.History
import Typelib.Proofs.Generator.Shelf
import Typelib.Proofs.Store.Opened

/-!
# Requests make exactly what is referred to

Let every library that another one refers to be known (`Catalog`), and let requests find and store
what they need (`Catalog.Serves`).  Then requests make the wrappers of the libraries asked for and
of those they refer to, directly or not, and of no others (`made_iff_reachable`); so it does not
matter in which order they come.

The store may be one that was given or one that the first request opens; it need not be empty, but
it has no wrapper in it.  `Shelf.catalog_serves` and `Shelf.catalog_serves_directory` are instances,
in memory and in a directory.

A library whose wrapper is resident hands no others on.  That nothing is missed on this account
rests on two invariants: a stored wrapper is resident as well (`Settled`), and between requests
the resident wrappers are closed under reference (`Catalog.Closed`).
-/

namespace Typelib

universe u

variable {σ : Type u}

/-- Libraries that refer to each other only: every one can be read and named. -/
structure Catalog where
  descriptor : Identity → Option Descriptor
  identity_eq : ∀ {i d}, descriptor i = some d → d.identity = i
  readable : ∀ {i d}, descriptor i = some d → ∃ items, d.items = .ok items
  complete : ∀ {i d items e}, descriptor i = some d → d.items = .ok items →
    e ∈ items.externals i → ∃ d', descriptor e = some d'
  nameable : ∀ {i d}, descriptor i = some d → ∃ name, friendlyName d.declaredName = .ok name

namespace Catalog

/-- A library of the catalog. -/
def Knows (c : Catalog) (i : Identity) : Prop := ∃ d, c.descriptor i = some d

/-- An item of the first library refers to the second. -/
def Refers (c : Catalog) (i j : Identity) : Prop :=
  ∃ d items, c.descriptor i = some d ∧ d.items = .ok items ∧ j ∈ items.externals i

/-- The second library is the first or is referred to from it, directly or not. -/
def Reaches (c : Catalog) : Identity → Identity → Prop := Relation.ReflTransGen c.Refers

/-- In a set of worlds the libraries of the catalog are found by their identities, and requests
with a given destination work with one store, which carries out the commits of their modules. -/
structure Serves (c : Catalog) (env : Environment σ) (store : Store σ) (worlds : σ → Prop)
    (destination : Destination σ) : Prop where
  lawful : store.Lawful worlds
  wrappers : ∀ {i d}, c.descriptor i = some d → store.Commits worlds i.wrapperName
  friendly : ∀ {i d name}, c.descriptor i = some d →
    friendlyName d.declaredName = .ok (some name) → store.Commits worlds name
  located : ∀ {world i d}, worlds world → c.descriptor i = some d →
    ∃ located, env.locate world (.exact i) none = .ok located ∧ located.library.descriptor = d
  read : ∀ library, env.items library = library.descriptor.items
  /-- Opening the store leaves it as it is. -/
  opened : ∀ g : Generator σ, g.destination = destination → worlds g.world →
    (g.openStore env).1 = store ∧ worlds (g.openStore env).2.world ∧
    ∀ name m, store.load (g.openStore env).2.world name = .hit m →
      store.load g.world name = .hit m

/-- A designator leads to a library of the catalog. -/
def Denotes (c : Catalog) (env : Environment σ) (worlds : σ → Prop) (designator : Designator)
    (base : Option Path) (i : Identity) : Prop :=
  ∃ d, c.descriptor i = some d ∧ ∀ world, worlds world →
    ∃ located, env.locate world designator base = .ok located ∧ located.library.descriptor = d

variable {c : Catalog} {i j : Identity}

theorem Refers.knows (h : c.Refers i j) : c.Knows j := by
  obtain ⟨d, items, hd, hread, hj⟩ := h
  exact c.complete hd hread hj

theorem Reaches.knows (h : c.Reaches i j) (hi : c.Knows i) : c.Knows j := by
  cases h with
  | refl => exact hi
  | tail _ hlast => exact hlast.knows

theorem refers_iff {d : Descriptor} {items : Items} (hd : c.descriptor i = some d)
    (hread : d.items = .ok items) : c.Refers i j ↔ j ∈ items.externals i := by
  constructor
  · rintro ⟨d', items', hd', hread', hj⟩
    obtain rfl := Option.some.inj (hd.symm.trans hd')
    obtain rfl := Except.ok.inj (hread.symm.trans hread')
    exact hj
  · exact fun hj => ⟨d, items, hd, hread, hj⟩

end Catalog

/-! ## The catalog of a shelf -/

namespace Shelf

/-- A library can be read and named, and what it refers to stands on the shelf. -/
def isSound (libraries : List Descriptor) (d : Descriptor) : Bool :=
  match d.items with
  | .error _ => false
  | .ok items =>
    (items.externals d.identity).all (fun e => (find libraries e).isSome) &&
      (friendlyName d.declaredName).isOk

theorem isSound_of_find {libraries : List Descriptor}
    (h : libraries.all (isSound libraries) = true) {i : Identity} {d : Descriptor}
    (hd : find libraries i = some d) : ∃ items, d.items = .ok items ∧
      (∀ e ∈ items.externals i, ∃ d', find libraries e = some d') ∧
      ∃ name, friendlyName d.declaredName = .ok name := by
  have hsound := List.all_eq_true.mp h d (List.mem_of_find?_eq_some hd)
  unfold isSound at hsound
  rcases hitems : d.items with e | items
  · simp [hitems] at hsound
  · simp only [hitems, find_identity hd, Bool.and_eq_true, List.all_eq_true,
      Option.isSome_iff_exists] at hsound
    refine ⟨items, rfl, hsound.1, ?_⟩
    rcases hname : friendlyName d.declaredName with e | name
    · simp [hname, Except.isOk, Except.toBool] at hsound
    · exact ⟨name, rfl⟩

/-- The catalog of the libraries on a shelf. -/
def catalog (libraries : List Descriptor) (h : libraries.all (isSound libraries) = true) :
    Catalog where
  descriptor := find libraries
  identity_eq := find_identity
  readable hd := by
    obtain ⟨items, hitems, -, -⟩ := isSound_of_find h hd
    exact ⟨items, hitems⟩
  complete {i d items e} hd hread he := by
    obtain ⟨items', hitems, hknown, -⟩ := isSound_of_find h hd
    obtain rfl := Except.ok.inj (hread.symm.trans hitems)
    exact hknown e he
  nameable hd := by
    obtain ⟨items, -, -, hname⟩ := isSound_of_find h hd
    exact hname

/-- Requests serve the catalog of the shelf. -/
theorem catalog_serves (libraries : List Descriptor)
    (h : libraries.all (isSound libraries) = true) :
    (catalog libraries h).Serves environment store (fun w => w.libraries = libraries)
      (.given store) where
  lawful := store_lawful libraries
  wrappers {i _} _ := store_commits libraries i.wrapperName_isIdentifier
  friendly _ hname := store_commits libraries (friendlyName_isIdentifier hname)
  located hw hd := by
    subst hw
    exact ⟨_, locate_exact hd, rfl⟩
  read _ := rfl
  opened g hg hw := by
    unfold Generator.openStore
    rw [hg]
    exact ⟨rfl, hw, fun _ _ => id⟩

/-- The libraries of a shelf, with modules in directories or in memory. -/
def besideFiles (libraries : List Descriptor) : Environment World :=
  { files := World.files
    registry := .empty
    load := fun _ => load ⟨libraries, .empty⟩
    items := fun library => library.descriptor.items
    known := .standard
    openStore := World.openStore 0 }

theorem locate_besideFiles {libraries : List Descriptor} {i : Identity} {d : Descriptor}
    (hd : find libraries i = some d) (w : World) (base : Option Path) :
    (besideFiles libraries).locate w (.exact i) base = .ok ⟨⟨d, none⟩, none⟩ := by
  have hload : (besideFiles libraries).load w (.registered i) = .ok ⟨d, none⟩ := by
    simp only [besideFiles, load, hd]
  have hresolve : resolve ((besideFiles libraries).files w) (besideFiles libraries).registry base
      (.exact i) = .ok ⟨.registered i, false, none⟩ := rfl
  simp only [Environment.locate, hresolve, hload]
  rfl

/-- There is room in a directory for the modules of the libraries. -/
def HasRoom (libraries : List Descriptor) (d : ModuleDirectory) : Prop :=
  ∀ l ∈ libraries, d.HasRoomFor l.identity.wrapperName ∧
    ∀ name, friendlyName l.declaredName = .ok (some name) → d.HasRoomFor name

/-- They serve it with modules in a directory that was empty, too. -/
theorem catalog_serves_directory {libraries : List Descriptor}
    (h : libraries.all (isSound libraries) = true) {d : ModuleDirectory}
    (hroom : HasRoom libraries d) (loc : Location) :
    (catalog libraries h).Serves (besideFiles libraries) (World.directory d) (World.IsHeld d loc)
      (.configured (some d.path)) where
  lawful := World.directory_lawful_isHeld d loc
  wrappers {i l} hd := by
    have hwrapper := (hroom l (List.mem_of_find?_eq_some hd)).1
    rw [find_identity hd] at hwrapper
    exact World.directory_commits_isHeld i.wrapperName_isIdentifier hwrapper
  friendly hd hname := World.directory_commits_isHeld (friendlyName_isIdentifier hname)
    ((hroom _ (List.mem_of_find?_eq_some hd)).2 _ hname)
  located hw hd := ⟨_, locate_besideFiles hd _ none, rfl⟩
  read _ := rfl
  opened g hg hw := by
    obtain ⟨held, hholds⟩ := hw
    rw [World.openStore_directory rfl hg hholds.prepared.prepare]
    exact ⟨rfl, ⟨held, hholds⟩, fun _ _ => id⟩

theorem catalog_denotes {libraries : List Descriptor}
    (h : libraries.all (isSound libraries) = true) {i : Identity}
    (hi : (find libraries i).isSome) :
    (catalog libraries h).Denotes environment (fun w => w.libraries = libraries) (.exact i) none
      i := by
  obtain ⟨d, hd⟩ := Option.isSome_iff_exists.mp hi
  refine ⟨d, hd, fun w hw => ?_⟩
  subst hw
  exact ⟨_, locate_exact hd, rfl⟩

theorem denotes_besideFiles {libraries : List Descriptor}
    (h : libraries.all (isSound libraries) = true) {worlds : World → Prop} {i : Identity}
    (hi : (find libraries i).isSome) :
    (catalog libraries h).Denotes (besideFiles libraries) worlds (.exact i) none i := by
  obtain ⟨d, hd⟩ := Option.isSome_iff_exists.mp hi
  exact ⟨d, hd, fun w _ => ⟨_, locate_besideFiles hd w none, rfl⟩⟩

theorem catalog_refers {libraries : List Descriptor}
    (h : libraries.all (isSound libraries) = true) {i j : Identity} {d : Descriptor}
    (hd : find libraries i = some d) (hj : j ∈ d.references) :
    (catalog libraries h).Refers i j := by
  obtain ⟨items, hread, hj⟩ := Descriptor.mem_references.mp hj
  rw [find_identity hd] at hj
  exact ⟨d, items, hd, hread, hj⟩

end Shelf

namespace Generator

/-! ## Stored wrappers are resident -/

/-- Every stored wrapper is resident, and the world is one of a set. -/
structure Settled (store : Store σ) (worlds : σ → Prop) (g : Generator σ) : Prop where
  world : worlds g.world
  stored : ∀ {i : Identity} {m}, store.load g.world i.wrapperName = .hit m → g.Made i

variable {env : Environment σ} {store : Store σ} {worlds : σ → Prop} {g after : Generator σ}
  {i : Identity}

theorem Settled.available_iff (h : Settled store worlds g) : Available store g i ↔ g.Made i :=
  or_iff_left_of_imp fun ⟨_, hm⟩ => h.stored hm

theorem WrapperStep.settled {located : Located} {events : List Event} {wrapper : Module}
    {externals : List Identity} (hstore : store.Lawful worlds) (hg : Settled store worlds g)
    (h : WrapperStep env store located g events (.ok (wrapper, externals), after)) :
    Settled store worlds after where
  world := h.moves.worlds hstore hg.world
  stored hm := by
    have hbefore := (h.available_iff hstore hg.world).mp (.inr ⟨_, hm⟩)
    rw [hg.available_iff] at hbefore
    exact (h.made_iff hstore.named).mpr hbefore

theorem FriendlyStep.settled {library : Library} {wrapper : Module} {events : List Event}
    {r : Except RequestError (Option Module) × Generator σ} (hstore : store.Lawful worlds)
    (hg : Settled store worlds g) (h : FriendlyStep store library wrapper g events r) :
    Settled store worlds r.2 where
  world := h.moves.worlds hstore hg.world
  stored hm := by
    have hbefore := (h.available_iff hstore hg.world).mp (.inr ⟨_, hm⟩)
    rw [hg.available_iff] at hbefore
    exact (h.made_iff hstore.named).mpr hbefore

/-! ## Taking up the libraries of a catalog -/

section Serving

variable {c : Catalog} {destination : Destination σ} {events : List Event} {e : Identity}
  (hserves : c.Serves env store worlds destination) (hg : Settled store worlds g)

include hserves hg

/-- The wrapper of a library of the catalog is come by.  The library hands on what it refers to,
unless it had its wrapper before. -/
theorem WrapperStep.known {located : Located} {d : Descriptor} {root : Identity}
    {r : Except RequestError (Module × List Identity) × Generator σ}
    (h : WrapperStep env store located g events r) (hd : c.descriptor root = some d)
    (hdescriptor : located.library.descriptor = d) :
    ∃ wrapper externals, r.1 = .ok (wrapper, externals) ∧ Settled store worlds r.2 ∧
      (∀ i, r.2.Made i ↔ g.Made i ∨ i = root) ∧
      ∀ j, j ∈ externals ↔ ¬g.Made root ∧ c.Refers root j := by
  have hroot : located.library.identity = root := by
    rw [Library.identity, hdescriptor, c.identity_eq hd]
  obtain ⟨items, hitems⟩ := c.readable hd
  have hread : env.items located.library = .ok items := by rw [hserves.read, hdescriptor, hitems]
  have hcommits := hserves.wrappers hd
  rw [← hroot] at hcommits
  obtain ⟨wrapper, externals, hok⟩ := h.succeeds hread hcommits hg.world
  obtain ⟨_, after⟩ := r
  dsimp only at hok
  subst hok
  refine ⟨wrapper, externals, rfl, h.settled hserves.lawful hg, fun i => ?_, fun j => ?_⟩
  · rw [h.made_iff hserves.lawful.named, hroot]
  · rw [Catalog.refers_iff hd hitems]
    have hcases := h.externals_cases
    rw [hroot, hg.available_iff] at hcases
    rcases hcases with ⟨hmade, rfl⟩ | ⟨hnew, items', hread', rfl, -⟩
    · simp [hmade]
    · obtain rfl := Except.ok.inj (hread.symm.trans hread')
      simp [hnew]

/-- A library of the catalog that is taken up gets its wrapper and is passed over by nothing. -/
theorem TakeUpStep.known {r : Outcome × Generator σ} (h : TakeUpStep env store e g events r)
    (hknown : c.Knows e) : Settled store worlds r.2 ∧
    (∀ i, r.2.Made i ↔ g.Made i ∨ i = e) ∧ ∀ j, j ∈ r.1.found ↔ ¬g.Made e ∧ c.Refers e j := by
  obtain ⟨d, hd⟩ := hknown
  obtain ⟨located, hlocate, hdescriptor⟩ := hserves.located hg.world hd
  cases h with
  | unlocated hnone =>
    rw [hlocate] at hnone
    cases hnone
  | mismatch hfound hother =>
    obtain rfl := Except.ok.inj (hfound.symm.trans hlocate)
    rw [Library.identity, hdescriptor, c.identity_eq hd] at hother
    exact absurd rfl hother
  | failed hfound hidentity hwrapper =>
    obtain rfl := Except.ok.inj (hfound.symm.trans hlocate)
    obtain ⟨wrapper, externals, hok, -⟩ := hwrapper.known hserves hg hd hdescriptor
    cases hok
  | @finished found _ _ wrapper externals between r hfound hidentity hwrapper hfriendly =>
    obtain rfl : found = located := Except.ok.inj (hfound.symm.trans hlocate)
    obtain ⟨_, _, hok, hbetween, hmade, hexternals⟩ := hwrapper.known hserves hg hd hdescriptor
    cases hok
    have hsame : found.library.friendlyName = friendlyName d.declaredName := by
      rw [Library.friendlyName, Library.declaredName, hdescriptor]
    have hdone := hfriendly.not_refused
      (fun name hname => hserves.friendly hd (hsame.symm.trans hname)) hbetween.world
    obtain ⟨friendly, hfriend⟩ :=
      (hfriendly.succeeds_iff hdone).mpr (by rw [hsame]; exact c.nameable hd)
    refine ⟨hfriendly.settled hserves.lawful hbetween, fun i => ?_, fun j => ?_⟩
    · rw [hfriendly.made_iff hserves.lawful.named, hmade]
    · rw [← hexternals, hfriend]
      rfl

/-- The chase makes the wrappers of what it takes up. -/
theorem Taken.known {visits : List Visit} (h : Taken env store g visits after)
    (hknown : ∀ visit ∈ visits, c.Knows visit.identity) :
    Settled store worlds after ∧
      ∀ i, after.Made i ↔ g.Made i ∨ i ∈ visits.map Visit.identity := by
  induction h with
  | nil => exact ⟨hg, by simp⟩
  | @cons g after identity visits h ih =>
    rw [List.forall_mem_cons] at hknown
    obtain ⟨hnext, hmade, -⟩ :=
      (takeUp_step env store identity g).known hserves hg hknown.1
    obtain ⟨hafter, hlater⟩ := ih hnext hknown.2
    refine ⟨hafter, fun i => ?_⟩
    rw [hlater, hmade, List.map_cons, List.mem_cons, or_assoc]

/-- A library whose wrapper the chase makes hands on what it refers to. -/
theorem Taken.found {visits : List Visit} (h : Taken env store g visits after)
    (hknown : ∀ visit ∈ visits, c.Knows visit.identity)
    (hdistinct : (visits.map Visit.identity).Nodup) {visit : Visit} (hvisit : visit ∈ visits)
    {j : Identity} : c.Refers visit.identity j →
      g.Made visit.identity ∨ j ∈ visit.outcome.found := by
  intro hrefers
  induction h with
  | nil => cases hvisit
  | @cons g after identity visits h ih =>
    rw [List.forall_mem_cons] at hknown
    obtain ⟨hsettled, hmade, hfound⟩ :=
      (takeUp_step env store identity g).known hserves hg hknown.1
    rw [List.map_cons, List.nodup_cons] at hdistinct
    rcases List.mem_cons.mp hvisit with rfl | hrest
    · by_cases hthere : g.Made identity
      · exact .inl hthere
      · exact .inr ((hfound j).mpr ⟨hthere, hrefers⟩)
    · refine (ih hsettled hknown.2 hdistinct.2 hrest).imp_left fun hlater => ?_
      -- it is taken up once, so it did not get its wrapper just now
      have hother : visit.identity ≠ identity := by
        intro heq
        rw [← heq] at hdistinct
        exact hdistinct.1 (List.mem_map.mpr ⟨visit, hrest, rfl⟩)
      exact ((hmade visit.identity).mp hlater).resolve_right hother

/-- The chase stays within every set that is closed under reference. -/
theorem chase_within {inside : Identity → Prop} (hinside : ∀ {i}, inside i → c.Knows i)
    (hclosed : ∀ {i j}, inside i → c.Refers i j → inside j) (visited : List Identity)
    (distinct : visited.Nodup) (pending : List Identity) (hpending : ∀ e ∈ pending, inside e) :
    ∀ visit ∈ (g.chase env store visited distinct pending).1, inside visit.identity := by
  fun_induction chase env store visited distinct pending g with
  | case1 => simp
  | case2 visited distinct g identity rest hseen ih =>
    exact ih hg (fun e he => hpending e (List.mem_cons_of_mem _ he))
  | case3 visited distinct g identity rest hnew outcome next htake visits after hchase ih =>
    have hstep := takeUp_step env store identity g
    rw [htake] at hstep
    have hfirst : inside identity := hpending identity List.mem_cons_self
    obtain ⟨hsettled, -, hfound⟩ := hstep.known hserves hg (hinside hfirst)
    have hrest : ∀ e ∈ rest ++ outcome.found, inside e := by
      intro e he
      rcases List.mem_append.mp he with hold | hnew
      · exact hpending e (List.mem_cons_of_mem _ hold)
      · exact hclosed hfirst ((hfound e).mp hnew).2
    have hvisits := ih hsettled hrest
    rw [hchase] at hvisits
    exact List.forall_mem_cons.mpr ⟨hfirst, hvisits⟩

/-! ## The chase in a catalog -/

section Chase

variable {root : Identity} {pending : List Identity} {r : List Visit × Generator σ}
  (hchase : r = g.chaseFrom env store root pending) (hpending : ∀ e ∈ pending, c.Knows e)

include hchase hpending

theorem chase_knows : ∀ visit ∈ r.1, c.Knows visit.identity := by
  rw [hchase]
  exact chase_within hserves hg id (fun _ => Catalog.Refers.knows) [root] _ pending hpending

theorem chase_known : Settled store worlds r.2 ∧
    ∀ i, r.2.Made i ↔ g.Made i ∨ i ∈ r.1.map Visit.identity :=
  (Taken.of_chaseFrom hchase).known hserves hg (chase_knows hserves hg hchase hpending)

theorem chase_pending (he : e ∈ pending) : e = root ∨ r.2.Made e := by
  by_cases hroot : e = root
  · exact .inl hroot
  · have hvisit := (mem_chaseFrom_iff hchase).mpr ⟨hroot, .inl he⟩
    exact .inr (((chase_known hserves hg hchase hpending).2 e).mpr (.inr hvisit))

/-- What a library refers to that is taken up without a wrapper gets its wrapper as well. -/
theorem chase_refers {j : Identity} (hi : i ∈ r.1.map Visit.identity) (hrefers : c.Refers i j) :
    g.Made i ∨ j = root ∨ r.2.Made j := by
  have hknows := chase_knows hserves hg hchase hpending
  obtain ⟨visit, hvisit, rfl⟩ := List.mem_map.mp hi
  refine ((Taken.of_chaseFrom hchase).found hserves hg hknows (nodup_chaseFrom hchase) hvisit
    hrefers).imp_right fun hfound => ?_
  by_cases hroot : j = root
  · exact .inl hroot
  · have hlater := (mem_chaseFrom_iff hchase).mpr ⟨hroot, .inr ⟨visit, hvisit, hfound⟩⟩
    exact .inr (((chase_known hserves hg hchase hpending).2 j).mpr (.inr hlater))

/-- If what is pending is all that is missing, nothing is missing after the chase. -/
theorem chase_closed (hroot : g.Made root)
    (hmissing : ∀ {i j}, g.Made i → c.Refers i j → g.Made j ∨ j ∈ pending) {j : Identity}
    (hi : r.2.Made i) (hrefers : c.Refers i j) : r.2.Made j := by
  have hmade := (chase_known hserves hg hchase hpending).2
  have hkept : ∀ {j}, j = root ∨ r.2.Made j → r.2.Made j := by
    rintro j (rfl | hj)
    · exact (hmade j).mpr (.inl hroot)
    · exact hj
  have hearly : g.Made i → r.2.Made j := by
    intro hi
    rcases hmissing hi hrefers with hj | hj
    · exact (hmade j).mpr (.inl hj)
    · exact hkept (chase_pending hserves hg hchase hpending hj)
  rcases (hmade i).mp hi with hi | hi
  · exact hearly hi
  · rcases chase_refers hserves hg hchase hpending hi hrefers with hi | hj
    · exact hearly hi
    · exact hkept hj

end Chase

/-- The chase after the wrapper of a library makes the wrappers of what it refers to, directly or
not, if the resident wrappers were closed under reference before. -/
theorem chase_reaches {before : Generator σ} {root : Identity} {externals : List Identity}
    {r : List Visit × Generator σ} (hroot : c.Knows root)
    (hclosed : ∀ {i j}, before.Made i → c.Refers i j → before.Made j)
    (hmade : ∀ i, g.Made i ↔ before.Made i ∨ i = root)
    (hexternals : ∀ j, j ∈ externals ↔ ¬before.Made root ∧ c.Refers root j)
    (hchase : r = g.chaseFrom env store root externals) :
    Settled store worlds r.2 ∧ ∀ i, r.2.Made i ↔ before.Made i ∨ c.Reaches root i := by
  have hpending : ∀ e ∈ externals, c.Knows e := fun e he => ((hexternals e).mp he).2.knows
  obtain ⟨hchased, hafter⟩ := chase_known hserves hg hchase hpending
  have hwithin : ∀ visit ∈ r.1, c.Reaches root visit.identity := by
    rw [hchase]
    exact chase_within hserves hg (fun hreach => Catalog.Reaches.knows hreach hroot) .tail _ _
      externals fun e he => .single ((hexternals e).mp he).2
  have hstart : r.2.Made root := (hafter root).mpr (.inl ((hmade root).mpr (.inr rfl)))
  have hrefers : ∀ {i j}, r.2.Made i → c.Refers i j → r.2.Made j := by
    refine chase_closed hserves hg hchase hpending ((hmade root).mpr (.inr rfl)) ?_
    intro i j hi hij
    by_cases hold : before.Made i
    · exact .inl ((hmade j).mpr (.inl (hclosed hold hij)))
    · obtain rfl := ((hmade i).mp hi).resolve_left hold
      exact .inr ((hexternals j).mpr ⟨hold, hij⟩)
  refine ⟨hchased, fun i => ⟨?_, ?_⟩⟩
  · intro hi
    rw [hafter, hmade] at hi
    rcases hi with (hi | rfl) | hi
    · exact .inl hi
    · exact .inr .refl
    · obtain ⟨visit, hvisit, rfl⟩ := List.mem_map.mp hi
      exact .inr (hwithin visit hvisit)
  · rintro (hi | hreach)
    · exact (hafter i).mpr (.inl ((hmade i).mpr (.inl hi)))
    · induction hreach with
      | refl => exact hstart
      | tail _ hlast ih => exact hrefers ih hlast

/-! ## Requests for libraries of a catalog -/

section Requests

variable {designator : Designator} {base : Option Path} {served : Served σ} {root : Identity}
  (h : ServeStep env store designator base g events served)

include h

/-- A request makes the wrappers of its library and of what that refers to, directly or not. -/
theorem ServeStep.known (hclosed : ∀ {i j}, g.Made i → c.Refers i j → g.Made j)
    (hdenotes : c.Denotes env worlds designator base root) :
    Settled store worlds served.generator ∧
      ∀ i, served.generator.Made i ↔ g.Made i ∨ c.Reaches root i := by
  obtain ⟨d, hd, hlocated⟩ := hdenotes
  obtain ⟨located, hlocate, hdescriptor⟩ := hlocated g.world hg.world
  have hroot : located.library.identity = root := by
    rw [Library.identity, hdescriptor, c.identity_eq hd]
  cases h with
  | unlocated hnone =>
    rw [hlocate] at hnone
    cases hnone
  | failed hfound hwrapper =>
    obtain rfl := Except.ok.inj (hfound.symm.trans hlocate)
    obtain ⟨wrapper, externals, hok, -⟩ := hwrapper.known hserves hg hd hdescriptor
    cases hok
  | @finished found _ _ wrapper externals between chased r hfound hwrapper hchase hfriendly =>
    obtain rfl : found = located := Except.ok.inj (hfound.symm.trans hlocate)
    obtain ⟨_, _, hok, hbetween, hmade, hexternals⟩ := hwrapper.known hserves hg hd hdescriptor
    cases hok
    rw [hroot] at hchase
    obtain ⟨hchased, hafter⟩ :=
      chase_reaches hserves hbetween ⟨d, hd⟩ hclosed hmade hexternals hchase
    refine ⟨hfriendly.settled hserves.lawful hchased, fun i => ?_⟩
    rw [hfriendly.made_iff hserves.lawful.named, hafter]

end Requests

end Serving

/-! ## Sequences of requests -/

/-- A designator for a library of a catalog. -/
structure Inquiry where
  designator : Designator
  base : Option Path
  library : Identity

/-- The request for the library. -/
def Inquiry.action (env : Environment σ) (q : Inquiry) : Action σ :=
  .request env q.designator q.base

section Sequences

variable {c : Catalog} {destination : Destination σ} {inquiries : List Inquiry}

/-- Requests work with a store, which is settled once it is open. -/
structure Opens (env : Environment σ) (store : Store σ) (worlds : σ → Prop) (g : Generator σ) :
    Prop where
  opens : (g.openStore env).1 = store
  settled : Settled store worlds (g.openStore env).2

/-- Opening the store again leaves a settled generator settled. -/
theorem Settled.opens (hserves : c.Serves env store worlds destination)
    (hg : Settled store worlds g) (hdestination : g.destination = destination) :
    Opens env store worlds g := by
  obtain ⟨hstore, hworld, hstored⟩ := hserves.opened g hdestination hg.world
  exact ⟨hstore, hworld, fun hm => (made_openStore env).mpr (hg.stored (hstored _ _ hm))⟩

/-- A request adds the wrappers of its library and of what that refers to, directly or not. -/
theorem request_made_iff (hserves : c.Serves env store worlds destination)
    (hg : Opens env store worlds g)
    (hclosed : ∀ {i j}, g.Made i → c.Refers i j → g.Made j) {q : Inquiry}
    (hdenotes : c.Denotes env worlds q.designator q.base q.library) :
    Settled store worlds (g.request env q.designator q.base).2 ∧
      ∀ i, (g.request env q.designator q.base).2.Made i ↔ g.Made i ∨ c.Reaches q.library i := by
  have hstep := serve_step env q.designator q.base g
  rw [hg.opens] at hstep
  obtain ⟨hserved, hmade⟩ := hstep.known hserves hg.settled
    (fun hi hij => (made_openStore env).mpr (hclosed ((made_openStore env).mp hi) hij)) hdenotes
  simp only [made_openStore] at hmade
  exact ⟨hserved, hmade⟩

theorem run_made_iff (hserves : c.Serves env store worlds destination)
    (hg : Opens env store worlds g) (hdestination : g.destination = destination)
    (hclosed : ∀ {i j}, g.Made i → c.Refers i j → g.Made j)
    (hdenotes : ∀ q ∈ inquiries, c.Denotes env worlds q.designator q.base q.library) :
    (run (inquiries.map (Inquiry.action env)) g).Made i ↔
      g.Made i ∨ ∃ q ∈ inquiries, c.Reaches q.library i := by
  induction inquiries generalizing g with
  | nil => simp [run]
  | cons q rest ih =>
    rw [List.forall_mem_cons] at hdenotes
    obtain ⟨hsettled, hmade⟩ := request_made_iff hserves hg hclosed hdenotes.1
    have hafter : (g.request env q.designator q.base).2.destination = destination :=
      (serve_destination q.designator q.base).trans hdestination
    have hrest := ih (hsettled.opens hserves hafter) hafter (fun hi hij => ?_) hdenotes.2
    · rw [List.map_cons, run, List.foldl_cons]
      refine hrest.trans ?_
      simp only [hmade, List.mem_cons, exists_eq_or_imp, or_assoc]
    · rw [hmade] at hi ⊢
      exact hi.imp (fun hi => hclosed hi hij) fun hi => hi.tail hij

/-- Requests to a generator that has done nothing, with no wrapper in its store when that is opened,
make the wrappers of the libraries asked for and of those they refer to, directly or not; their
order does not matter. -/
theorem made_iff_reachable (hserves : c.Serves env store worlds destination) {world : σ}
    (hopens : (destination.opened env.openStore world).1 = store)
    (hworld : worlds (destination.opened env.openStore world).2)
    (hnone : store.HoldsNoWrapper (destination.opened env.openStore world).2)
    (hdenotes : ∀ q ∈ inquiries, c.Denotes env worlds q.designator q.base q.library) :
    (∀ i, (run (inquiries.map (Inquiry.action env)) (.start world destination)).Made i ↔
      ∃ q ∈ inquiries, c.Reaches q.library i) ∧
    ∀ others : List Inquiry, others.Perm inquiries → ∀ i,
      (run (others.map (Inquiry.action env)) (.start world destination)).Made i ↔
        (run (inquiries.map (Inquiry.action env)) (.start world destination)).Made i := by
  have hnew : ∀ i, ¬(start world destination).Made i := by
    rintro i ⟨m, hm⟩
    cases hm
  have hstart : Opens env store worlds (start world destination) := by
    refine ⟨?_, ?_, ?_⟩ <;> rw [openStore_eq]
    · exact hopens
    · exact hworld
    · exact fun hm => absurd hm (hnone _ _)
  have hmade : ∀ {list : List Inquiry},
      (∀ q ∈ list, c.Denotes env worlds q.designator q.base q.library) → ∀ i,
      (run (list.map (Inquiry.action env)) (.start world destination)).Made i ↔
        ∃ q ∈ list, c.Reaches q.library i := by
    intro list hlist i
    rw [run_made_iff hserves hstart rfl (fun hi => absurd hi (hnew _)) hlist,
      or_iff_right (hnew i)]
  refine ⟨hmade hdenotes, fun others hperm i => ?_⟩
  rw [hmade hdenotes, hmade fun q hq => hdenotes q (hperm.mem_iff.mp hq)]
  exact exists_congr fun q => and_congr_left' hperm.mem_iff

end Sequences

/-- Two libraries that refer to each other: a request for one makes both wrappers, with modules in
memory and in a directory that was empty. -/
theorem mutual_made :
    let a : Identity := ⟨⟨0xa⟩, 1, 0, 0⟩
    let b : Identity := ⟨⟨0xb⟩, 1, 0, 0⟩
    let libraries := [Shelf.referring none a b, Shelf.referring none b a]
    let ask : Action Shelf := .request Shelf.environment (.exact a) none
    let askThere : Action World := .request (Shelf.besideFiles libraries) (.exact a) none
    let there : Generator World := start .bare (.configured (some ⟨"/gen"⟩))
    ((run [ask] (Shelf.fresh libraries)).Made a ∧ (run [ask] (Shelf.fresh libraries)).Made b) ∧
      World.bare.files.entries ⟨"/gen"⟩ = .ok [] ∧
      (World.openStore 0 (some ⟨"/gen"⟩) .bare).1 = World.directory ⟨⟨"/gen"⟩⟩ ∧
      (run [askThere] there).Made a ∧ (run [askThere] there).Made b := by
  intro a b libraries ask askThere there
  have hsound : libraries.all (Shelf.isSound libraries) = true := by decide +kernel
  have hrefers : (Shelf.catalog libraries hsound).Refers a b :=
    Shelf.catalog_refers hsound rfl (by decide +kernel)
  have hknown : (Shelf.find libraries a).isSome := by decide
  have hdenotes : ∀ q ∈ [(⟨.exact a, none, a⟩ : Inquiry)],
      (Shelf.catalog libraries hsound).Denotes Shelf.environment
        (fun w => w.libraries = libraries) q.designator q.base q.library :=
    List.forall_mem_singleton.mpr (Shelf.catalog_denotes hsound hknown)
  have hmade := (made_iff_reachable (Shelf.catalog_serves libraries hsound) rfl rfl
    (Shelf.store_holdsNoWrapper libraries) hdenotes).1
  -- the same in the directory, once it has been opened
  obtain ⟨loc, hfixes, hnone⟩ := World.fixes_of_empty 0 World.entries_bare World.prepare_bare
  have hroom : Shelf.HasRoom libraries ⟨⟨"/gen"⟩⟩ := by
    simp only [Shelf.HasRoom, libraries, List.forall_mem_cons]
    exact ⟨⟨by decide, nofun⟩, ⟨by decide, nofun⟩, nofun⟩
  have hthere : ∀ q ∈ [(⟨.exact a, none, a⟩ : Inquiry)],
      (Shelf.catalog libraries hsound).Denotes (Shelf.besideFiles libraries)
        (World.IsHeld ⟨⟨"/gen"⟩⟩ loc) q.designator q.base q.library :=
    List.forall_mem_singleton.mpr (Shelf.denotes_besideFiles hsound hknown)
  have hmadeThere := (made_iff_reachable (Shelf.catalog_serves_directory hsound hroom loc)
    hfixes.opens hfixes.leads hnone hthere).1
  have hself : ∃ q ∈ [(⟨.exact a, none, a⟩ : Inquiry)],
      (Shelf.catalog libraries hsound).Reaches q.library a :=
    ⟨_, List.mem_singleton_self _, .refl⟩
  have hother : ∃ q ∈ [(⟨.exact a, none, a⟩ : Inquiry)],
      (Shelf.catalog libraries hsound).Reaches q.library b :=
    ⟨_, List.mem_singleton_self _, .single hrefers⟩
  exact ⟨⟨(hmade a).mpr hself, (hmade b).mpr hother⟩, World.entries_bare, World.openStore_bare 0,
    (hmadeThere a).mpr hself, (hmadeThere b).mpr hother⟩

end Generator

end Typelib
