import Typelib.Generator.World
import Typelib.Proofs.Store.Directory

/-!
# Generators with one store

A request opens its store when it starts, so two requests of one generator can work with different
stores.  From a world on that a destination `Fixes` they all work with the same one: the first
request opens it, which changes no module in it, and later ones find it open.

In the `World` this is so in memory, with a store that was given, and with a directory that can be
opened (`World.Fixed`); all these stores are retentive and faithful (`World.Fixed.fixes`,
`World.Fixed.faithful`).  A directory that cannot be opened is tried again by every request, so it
is left out here unless the attempt leaves the files as they are.
-/

namespace Typelib

universe u

variable {σ : Type u}

/-! ## Destinations -/

namespace Destination

/-- The store of a destination, and the world once it is open. -/
def opened (destination : Destination σ) (openStore : Option Path → σ → Store σ × σ) (world : σ) :
    Store σ × σ :=
  match destination with
  | .given store => (store, world)
  | .configured directory => openStore directory world

/-- From a world on, requests with a destination work with one store, and once it is open, the
world is one of a set. -/
structure Fixes (destination : Destination σ) (openStore : Option Path → σ → Store σ × σ)
    (world : σ) (store : Store σ) (worlds : σ → Prop) : Prop where
  opens : (destination.opened openStore world).1 = store
  leads : worlds (destination.opened openStore world).2
  /-- A store that is open is not changed by opening it again. -/
  rests : ∀ {later}, worlds later → destination.opened openStore later = (store, later)
  /-- Opening a store that holds a module changes none of its modules. -/
  same : ∀ {name other m}, IsIdentifier name.member → IsIdentifier other.member →
    store.load world name = .hit m →
    store.load (destination.opened openStore world).2 other = store.load world other

/-- A store that was given need not be opened. -/
theorem fixes_given (openStore : Option Path → σ → Store σ × σ) {world : σ} (store : Store σ)
    {worlds : σ → Prop} (h : worlds world) :
    (Destination.given store).Fixes openStore world store worlds :=
  ⟨rfl, h, fun _ => rfl, fun _ _ _ => rfl⟩

/-- The set of worlds may be made smaller if opening the store leads there. -/
theorem Fixes.mono {destination : Destination σ} {openStore : Option Path → σ → Store σ × σ}
    {world : σ} {store : Store σ} {worlds smaller : σ → Prop}
    (h : destination.Fixes openStore world store worlds)
    (hsmaller : ∀ {later}, smaller later → worlds later)
    (hleads : smaller (destination.opened openStore world).2) :
    destination.Fixes openStore world store smaller where
  opens := h.opens
  leads := hleads
  rests hlater := h.rests (hsmaller hlater)
  same := h.same

end Destination

theorem Generator.openStore_eq (env : Environment σ) (g : Generator σ) :
    g.openStore env = ((g.destination.opened env.openStore g.world).1,
      { g with world := (g.destination.opened env.openStore g.world).2 }) := by
  obtain ⟨world, resident, stats, destination⟩ := g
  cases destination <;> rfl

/-- The first request opens the store that a destination fixes. -/
theorem Generator.openStore_start {env : Environment σ} {destination : Destination σ} {world : σ}
    {store : Store σ} {worlds : σ → Prop}
    (h : destination.Fixes env.openStore world store worlds) :
    (start world destination).openStore env =
      (store, start (destination.opened env.openStore world).2 destination) := by
  rw [openStore_eq]
  exact congrArg (·, _) h.opens

/-! ## The stores of a world -/

namespace World

/-- The store that the requests of a generator work with from a world on: a store in memory, or
one in a directory that can be opened or was given. -/
inductive Fixed (number : Nat) (w : World) : Destination World → Store World → Prop
  | memory (hnumber : number < w.memories.length) :
      Fixed number w (.configured none) (memory number)
  | directory {p : Path} (hopens : (ModuleDirectory.prepare ⟨p⟩ w.files).2 = none) :
      Fixed number w (.configured (some p)) (directory ⟨p⟩)
  | unopened {p : Path} {fault : Fault}
      (hfails : ModuleDirectory.prepare ⟨p⟩ w.files = (w.files, some fault))
      (hnumber : number < w.memories.length) :
      Fixed number w (.configured (some p)) (World.memory number)
  | givenMemory {k : Nat} (hnumber : k < w.memories.length) :
      Fixed number w (.given (World.memory k)) (World.memory k)
  | givenDirectory (d : ModuleDirectory) :
      Fixed number w (.given (World.directory d)) (World.directory d)

variable {number : Nat} {w : World} {destination : Destination World} {store : Store World}

theorem openStore_of_prepare {p : Path} (h : (ModuleDirectory.prepare ⟨p⟩ w.files).2 = none) :
    openStore number (some p) w =
      (directory ⟨p⟩, { w with files := (ModuleDirectory.prepare ⟨p⟩ w.files).1 }) := by
  simp only [openStore, ModuleDirectory.openAt_of_prepare h]

theorem openStore_of_fault {p : Path} {fault : Fault}
    (h : ModuleDirectory.prepare ⟨p⟩ w.files = (w.files, some fault)) :
    openStore number (some p) w = (memory number, w) := by
  simp only [openStore, ModuleDirectory.openAt, h]

/-- A generator opens the store of a directory that can be prepared. -/
theorem openStore_directory {env : Environment World} (henv : env.openStore = openStore number)
    {g : Generator World} {d : ModuleDirectory} (hg : g.destination = .configured (some d.path))
    {made : Files} (hprepare : d.prepare g.world.files = (made, none)) :
    g.openStore env = (directory d, { g with world := { g.world with files := made } }) := by
  obtain ⟨world, resident, stats, destination⟩ := g
  cases hg
  have hopens : openStore number (some d.path) world =
      (directory d, { world with files := (d.prepare world.files).1 }) :=
    openStore_of_prepare (congrArg Prod.snd hprepare)
  simp only [Generator.openStore, henv, hopens, hprepare]

theorem Fixed.faithful (h : Fixed number w destination store) :
    store.Faithful fun _ => True := by
  cases h with
  | memory hnumber => exact memory_faithful number
  | directory hopens => exact directory_faithful _ _
  | unopened hfails hnumber => exact memory_faithful number
  | givenMemory hnumber => exact memory_faithful _
  | givenDirectory d => exact directory_faithful d _

/-- Commits to memory do not concern the files. -/
theorem memory_retentive_files (number : Nat) (files : Files) :
    (World.memory number).Retentive fun w => w.files = files ∧ number < w.memories.length :=
  (memory_retentive number).mono And.right fun hw hname text =>
    ⟨hw.1, (memory_retentive number).keeps hw.2 hname text⟩

/-- The store in memory need not be opened either. -/
theorem memory_fixes {worlds : World → Prop} (h : worlds w) :
    Destination.Fixes (.configured none) (openStore number) w (memory number) worlds :=
  ⟨rfl, h, fun _ => rfl, fun _ _ _ => rfl⟩

/-- A directory that can be opened is prepared from then on. -/
theorem directory_fixes {p : Path} (hopens : (ModuleDirectory.prepare ⟨p⟩ w.files).2 = none) :
    Destination.Fixes (.configured (some p)) (openStore number) w (directory ⟨p⟩)
      fun w => ModuleDirectory.IsPrepared ⟨p⟩ w.files := by
  have hopened : Destination.opened (.configured (some p)) (openStore number) w = _ :=
    openStore_of_prepare hopens
  refine ⟨?_, ?_, fun {later} hlater => ?_, fun {name other m} hname hother hfound => ?_⟩
  · rw [hopened]
  · rw [hopened]
    exact ModuleDirectory.isPrepared_of_prepare (Prod.ext rfl hopens)
  · have hprepare := hlater.prepare
    have hagain : openStore number (some p) later = _ :=
      openStore_of_prepare (congrArg Prod.snd hprepare)
    rwa [hprepare] at hagain
  · rw [directory_load] at hfound
    rw [hopened, directory_load, directory_load]
    exact ModuleDirectory.lookup_prepare hname hfound hother

/-- A directory that cannot be opened now cannot be opened later if the files stay as they are. -/
theorem unopened_fixes {p : Path} {fault : Fault}
    (hfails : ModuleDirectory.prepare ⟨p⟩ w.files = (w.files, some fault))
    (hnumber : number < w.memories.length) :
    Destination.Fixes (.configured (some p)) (openStore number) w (memory number)
      fun later => later.files = w.files ∧ number < later.memories.length := by
  have hopened : Destination.opened (.configured (some p)) (openStore number) w = _ :=
    openStore_of_fault hfails
  refine ⟨?_, ?_, fun {later} hlater => ?_, fun _ _ _ => ?_⟩
  · rw [hopened]
  · rw [hopened]
    exact ⟨rfl, hnumber⟩
  · have hagain : ModuleDirectory.prepare ⟨p⟩ later.files = (later.files, some fault) := by
      rw [hlater.1, hfails]
    exact openStore_of_fault hagain
  · rw [hopened]

/-- Requests go on working with the store that they work with. -/
theorem Fixed.fixes (h : Fixed number w destination store) :
    ∃ worlds, store.Retentive worlds ∧ destination.Fixes (openStore number) w store worlds ∧
      ∀ {later}, worlds later → Fixed number later destination store := by
  cases h with
  | memory hnumber =>
    exact ⟨_, memory_retentive number, memory_fixes hnumber, .memory⟩
  | @directory p hopens =>
    exact ⟨_, directory_retentive_isPrepared ⟨p⟩, directory_fixes hopens,
      fun hlater => .directory (congrArg Prod.snd hlater.prepare)⟩
  | unopened hfails hnumber =>
    exact ⟨_, memory_retentive_files number w.files, unopened_fixes hfails hnumber,
      fun hlater => .unopened (by rw [hlater.1, hfails]) hlater.2⟩
  | givenMemory hnumber =>
    exact ⟨_, memory_retentive _, Destination.fixes_given _ _ hnumber, .givenMemory⟩
  | givenDirectory d =>
    exact ⟨_, directory_retentive d, Destination.fixes_given _ _ trivial,
      fun _ => .givenDirectory d⟩

end World

end Typelib
