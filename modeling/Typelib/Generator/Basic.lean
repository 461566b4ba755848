import Typelib.Generator.Error
import Typelib.Symbols

/-!
# Generators

A `Generator σ` makes the modules of libraries on request and keeps them in two tiers: the modules
resident in the generator, and the modules in a store.  The type `σ` is the state of the world
that libraries are read from and modules are stored in.  What a generator works with is its
`Environment`: how a library is loaded and read, which symbols are known, and which store a
directory stands for.  The store of a request is opened when the request starts
(`Generator.openStore`), so a change of the destination counts from the next request on.

Requests are served one after the other.  What would keep several at a time apart has no part in
this, and neither has the log that a generator writes.
-/

namespace Typelib

universe u

/-! ## Counters -/

/-- How much a generator has done.  These are natural numbers: other than counters of 64 bits, they
never start again from zero. -/
structure Stats where
  parses : Nat
  wrappersGenerated : Nat
  friendlyGenerated : Nat
  /-- Look-ups answered by a resident module. -/
  residentHits : Nat
  /-- Look-ups answered by the store. -/
  storeHits : Nat
  deriving DecidableEq

/-- Nothing has been done. -/
def Stats.zero : Stats := ⟨0, 0, 0, 0, 0⟩

/-- The counters in reports. -/
def Stats.toJson (s : Stats) : Json :=
  .object [("parses", .nat s.parses), ("wrappers_generated", .nat s.wrappersGenerated),
    ("friendly_generated", .nat s.friendlyGenerated), ("resident_hits", .nat s.residentHits),
    ("store_hits", .nat s.storeHits)]

/-! ## State -/

/-- Where the modules of the next request go. -/
inductive Destination (σ : Type u) where
  | configured (directory : Option Path)
  | given (store : Store σ)

/-- The state of a generator and of the world around it. -/
structure Generator (σ : Type u) where
  world : σ
  resident : Table ModuleName Module
  stats : Stats
  destination : Destination σ

/-- What a generator works with. -/
structure Environment (σ : Type u) where
  files : σ → Files
  registry : Registry
  load : σ → Target → Except LoadError Library
  items : Library → Except CorruptDescriptor Items
  known : Symbols
  /-- The store of a configured directory, or of memory. -/
  openStore : Option Path → σ → Store σ × σ

variable {σ : Type u}

namespace Generator

/-- A generator that has done nothing. -/
def start (world : σ) (destination : Destination σ) : Generator σ :=
  ⟨world, .empty, .zero, destination⟩

/-- The names of the resident modules, in order. -/
def residentNames (g : Generator σ) : List ModuleName := sortedNames g.resident.keys

/-- Has the modules of later requests go into a directory or into memory. -/
def configure (g : Generator σ) (directory : Option Path) : Generator σ :=
  { g with destination := .configured directory }

/-- The store of the next request; opening it may change the world. -/
def openStore (env : Environment σ) (g : Generator σ) : Store σ × Generator σ :=
  match g.destination with
  | .given store => (store, g)
  | .configured directory =>
    let (store, world) := env.openStore directory g.world
    (store, { g with world })

/-! ## Counting and keeping -/

/-- Counts a look-up answered by a resident module. -/
def countResident (g : Generator σ) : Generator σ :=
  { g with stats := { g.stats with residentHits := g.stats.residentHits + 1 } }

/-- Counts a look-up answered by the store. -/
def countStored (g : Generator σ) : Generator σ :=
  { g with stats := { g.stats with storeHits := g.stats.storeHits + 1 } }

/-- Counts a library whose items have been read. -/
def countParse (g : Generator σ) : Generator σ :=
  { g with stats := { g.stats with parses := g.stats.parses + 1 } }

/-- Counts a wrapper that has been generated and committed. -/
def countWrapper (g : Generator σ) : Generator σ :=
  { g with stats := { g.stats with wrappersGenerated := g.stats.wrappersGenerated + 1 } }

/-- Counts a friendly module that has been generated and committed. -/
def countFriendly (g : Generator σ) : Generator σ :=
  { g with stats := { g.stats with friendlyGenerated := g.stats.friendlyGenerated + 1 } }

/-- Makes a module resident under its name. -/
def keep (g : Generator σ) (m : Module) : Generator σ :=
  { g with resident := g.resident.insert m.name m }

end Generator

end Typelib
