import Typelib.Proofs.Generator.Residence

/-!
# Libraries on a shelf

The smallest world in which generators work: libraries are descriptors on a `Shelf`, found there by
their identities, and modules are stored in memory.  Its environment satisfies everything the
theory asks of an environment and of a store, whatever stands on the shelf.
-/

namespace Typelib

/-- The libraries that the items of a descriptor refer to. -/
def Descriptor.references (d : Descriptor) : List Identity :=
  match d.items with
  | .ok items => items.externals d.identity
  | .error _ => []

theorem Descriptor.mem_references {d : Descriptor} {e : Identity} :
    e ∈ d.references ↔ ∃ items, d.items = .ok items ∧ e ∈ items.externals d.identity := by
  unfold references
  rcases d.items with _ | items <;> simp

/-- Descriptors of libraries, and modules. -/
structure Shelf where
  libraries : List Descriptor
  modules : SealedTable

namespace Shelf

/-- A library with one item, which refers to another library. -/
def referring (name : Option String) (i e : Identity) : Descriptor :=
  { Descriptor.bare i with name }.withItem (.typeAlias "X" (.external e "Y"))

/-- The descriptor of a library. -/
def find (libraries : List Descriptor) (i : Identity) : Option Descriptor :=
  libraries.find? fun d => d.identity = i

theorem find_identity {libraries : List Descriptor} {i : Identity} {d : Descriptor}
    (h : find libraries i = some d) : d.identity = i := by
  simpa using List.find?_some h

theorem find_singleton {d : Descriptor} {i : Identity} (h : i ≠ d.identity) :
    find [d] i = none := by
  simp [find, h.symm]

/-- Loads what is loaded already or stands on the shelf. -/
def load (w : Shelf) : Target → Except LoadError Library
  | .registered i =>
    match find w.libraries i with
    | some d => .ok ⟨d, none⟩
    | none => .error (.missing i.text)
  | .loaded library => .ok library
  | .path p => .error (.missing p.text)

/-- The modules of the shelf. -/
def store : Store Shelf := Store.memory.within modules fun w modules => { w with modules }

/-- The environment of a generator that takes its libraries from the shelf. -/
def environment : Environment Shelf :=
  { files := fun _ => ⟨.empty, none⟩
    registry := .empty
    load
    items := fun library => library.descriptor.items
    known := .standard
    openStore := fun _ w => (store, w) }

/-- A generator that has done nothing, with modules in the shelf. -/
def fresh (libraries : List Descriptor) : Generator Shelf :=
  .start ⟨libraries, .empty⟩ (.given store)

/-! ## Locating libraries -/

section Locate

variable {w : Shelf} {i : Identity} {d : Descriptor} {base : Option Path}

theorem locate_exact (h : find w.libraries i = some d) :
    environment.locate w (.exact i) base = .ok ⟨⟨d, none⟩, none⟩ := by
  have hload : environment.load w (.registered i) = .ok ⟨d, none⟩ := by
    simp only [environment, load, h]
  have hresolve : resolve (environment.files w) environment.registry base (.exact i) =
      .ok ⟨.registered i, false, none⟩ := rfl
  simp only [Environment.locate, hresolve, hload]
  rfl

theorem locate_exact_missing (h : find w.libraries i = none) :
    environment.locate w (.exact i) base = .error (.load (.missing i.text)) := by
  have hload : environment.load w (.registered i) = .error (.missing i.text) := by
    simp only [environment, load, h]
  have hresolve : resolve (environment.files w) environment.registry base (.exact i) =
      .ok ⟨.registered i, false, none⟩ := rfl
  simp only [Environment.locate, hresolve, hload]

/-- Whatever is located by its identity stands on the shelf. -/
theorem find_of_locate {located : Located}
    (h : environment.locate w (.exact i) base = .ok located) :
    find w.libraries i = some located.library.descriptor := by
  rcases hfind : find w.libraries i with _ | d
  · rw [locate_exact_missing hfind] at h
    cases h
  · rw [locate_exact hfind] at h
    cases h
    rfl

end Locate

/-! ## Storing modules -/

/-- Whatever the shelf stocks, storing modules does not change it. -/
theorem store_lawful (libraries : List Descriptor) :
    store.Lawful fun w => w.libraries = libraries :=
  Store.memory_lawful.within (fun _ => trivial) (fun hw _ => hw) fun _ _ => .inl rfl

theorem store_commits (libraries : List Descriptor) {name : ModuleName}
    (h : IsIdentifier name.member) : store.Commits (fun w => w.libraries = libraries) name :=
  (Store.memory_commits (fun _ => True) h).within fun _ => trivial

theorem store_faithful (libraries : List Descriptor) :
    store.Faithful fun w => w.libraries = libraries :=
  (Store.memory_faithful fun _ => True).within fun _ => trivial

theorem store_holdsNoWrapper (libraries : List Descriptor) :
    store.HoldsNoWrapper ⟨libraries, .empty⟩ :=
  Store.memory_holdsNoWrapper

theorem not_available_fresh (libraries : List Descriptor) (i : Identity) :
    ¬Generator.Available store (fresh libraries) i := by
  rintro (⟨m, hm⟩ | ⟨m, hm⟩)
  · cases hm
  · cases hm

/-- What stands on the shelf and can be read can be had. -/
theorem obtainable {libraries : List Descriptor} {e : Identity} {d : Descriptor} {items : Items}
    (hd : find libraries e = some d) (hread : d.items = .ok items) :
    Generator.Obtainable environment store (fun w => w.libraries = libraries) e where
  located hw := by
    subst hw
    exact ⟨_, items, locate_exact hd, find_identity hd, hread⟩
  commits := store_commits libraries e.wrapperName_isIdentifier

end Shelf

end Typelib
