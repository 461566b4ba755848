import Typelib.Proofs.Generator.History
import Typelib.Proofs.Generator.Shelf

/-!
# When a library that could not be had is tried again

A wrapper can refer to a library that could not be located or read when the wrapper was generated.
Whether a later request for the wrapper's library makes up for it depends on the wrapper alone: if
it has to be generated again, what it refers to is taken up once more, and otherwise nothing is
(`retried_iff`).  So as long as the wrapper is kept, the reference stays dangling however often the
library is asked for (`dangling`), even if the other library could be had by now.
-/

namespace Typelib

universe u

variable {σ : Type u}

namespace Generator

variable {env : Environment σ} {store : Store σ} {worlds : σ → Prop} {located : Located}
  {events : List Event} {g after : Generator σ} {e : Identity} {visits : List Visit}

/-- Where nothing can be located, a chase changes nothing. -/
theorem Taken.unlocated (h : Taken env store g visits after)
    (hnone : ∀ visit ∈ visits, ∃ error,
      env.locate g.world (.exact visit.identity) none = .error error) : after = g := by
  induction h with
  | nil => rfl
  | @cons g after identity visits h ih =>
    rw [List.forall_mem_cons] at hnone
    obtain ⟨⟨error, hfirst⟩, hrest⟩ := hnone
    have hsame : (g.takeUp env store identity).2 = g := by
      unfold takeUp
      rw [hfirst]
    rw [hsame] at ih
    exact ih hrest

/-- Nothing that a request takes up for its library can be located: there is at most one wrapper
more. -/
theorem ServeStep.available_iff_of_unlocated {designator : Designator} {base : Option Path}
    {served : Served σ} (hstore : store.Lawful worlds)
    (h : ServeStep env store designator base g events served)
    (hlocate : env.locate g.world designator base = .ok located) (hworld : worlds g.world)
    (hnone : ∀ {world i}, worlds world → i ≠ located.library.identity →
      ∃ error, env.locate world (.exact i) none = .error error)
    (hroot : ∀ error, served.root ≠ .failed error) :
    Available store served.generator e ↔
      Available store g e ∨ e = located.library.identity := by
  cases h with
  | unlocated hfailed => exact absurd rfl (hroot _)
  | failed hfound hwrapper => exact absurd rfl (hroot _)
  | @finished found _ _ wrapper externals between chased r hfound hwrapper hchase hfriendly =>
    obtain rfl : found = located := Except.ok.inj (hfound.symm.trans hlocate)
    have hvisits := Taken.of_chaseFrom hchase
    have hbetween := hwrapper.moves.worlds hstore hworld
    obtain rfl : between = chased.2 := by
      refine (hvisits.unlocated fun visit hvisit => ?_).symm
      have hmem := (mem_chaseFrom_iff hchase).mp (List.mem_map.mpr ⟨visit, hvisit, rfl⟩)
      exact hnone hbetween hmem.1
    rw [hfriendly.available_iff hstore hbetween, hwrapper.available_iff hstore hworld]

/-! ## Requests for a library that refers to another one -/

/-- After a request that gets past the wrapper of its library, the wrapper of a library that this
one refers to is available if it was before or the first wrapper was not. -/
theorem ServeStep.available_iff {designator : Designator} {base : Option Path}
    {served : Served σ} (hstore : store.Lawful worlds)
    (h : ServeStep env store designator base g events served)
    (hlocate : env.locate g.world designator base = .ok located) {items : Items}
    (hread : env.items located.library = .ok items)
    (href : e ∈ items.externals located.library.identity)
    (he : Obtainable env store worlds e) (hworld : worlds g.world)
    (hroot : ∀ error, served.root ≠ .failed error) :
    Available store served.generator e ↔
      Available store g e ∨ ¬Available store g located.library.identity := by
  cases h with
  | unlocated hnone => exact absurd rfl (hroot _)
  | failed hfound hwrapper => exact absurd rfl (hroot _)
  | @finished found _ _ wrapper externals between chased r hfound hwrapper hchase hfriendly =>
    obtain rfl : found = located := Except.ok.inj (hfound.symm.trans hlocate)
    have hbetween := hwrapper.moves.worlds hstore hworld
    rcases hwrapper.externals_cases with ⟨hthere, rfl⟩ | ⟨hnew, items', hread', rfl, -⟩
    · -- the wrapper is found, and nothing is taken up
      obtain rfl : between = chased.2 := by
        rw [hchase, chaseFrom, chase]
      rw [hfriendly.available_iff hstore hbetween, hwrapper.available_iff hstore hworld]
      constructor
      · rintro (hbefore | rfl)
        · exact .inl hbefore
        · exact .inl hthere
      · rintro (hbefore | hnew)
        · exact .inl hbefore
        · exact absurd hthere hnew
    · -- the wrapper is generated, and what it refers to is taken up
      obtain rfl := Except.ok.inj (hread.symm.trans hread')
      refine iff_of_true (.inl ?_) (.inr hnew)
      have hvisits := Taken.of_chaseFrom hchase
      rw [hfriendly.made_iff hstore.named]
      by_cases hself : e = found.library.identity
      · have hmade := (hwrapper.made_iff hstore.named).mpr (.inr hself)
        exact hvisits.moves.made hstore.named hmade
      · have hvisit := (mem_chaseFrom_iff hchase).mpr ⟨hself, .inl href⟩
        exact hvisits.obtains hstore hbetween he hvisit

/-- If a request for a library succeeds that refers to another one, which can be had, then the
wrapper of the other one is available afterwards exactly if it was available before or the wrapper
of the library was not. -/
theorem retried_iff (env : Environment σ) (designator : Designator) (base : Option Path)
    (g : Generator σ) (worlds : σ → Prop) {located : Located} {items : Items} {e : Identity}
    {m : Module} (hstore : (g.openStore env).1.Lawful worlds)
    (hworld : worlds (g.openStore env).2.world)
    (hlocate : env.locate (g.openStore env).2.world designator base = .ok located)
    (hread : env.items located.library = .ok items)
    (href : e ∈ items.externals located.library.identity)
    (he : Obtainable env (g.openStore env).1 worlds e)
    (hok : (g.request env designator base).1 = .ok m) :
    Available (g.openStore env).1 (g.request env designator base).2 e ↔
      Available (g.openStore env).1 (g.openStore env).2 e ∨
        ¬Available (g.openStore env).1 (g.openStore env).2 located.library.identity := by
  refine (serve_step env designator base g).available_iff hstore hlocate hread href he hworld
    fun error hfailed => ?_
  rw [request, hfailed] at hok
  cases hok

/-- A fresh generator makes the wrapper of what a library refers to. -/
theorem retried_fresh :
    let a : Identity := ⟨⟨0xa⟩, 1, 0, 0⟩
    let b : Identity := ⟨⟨0xb⟩, 1, 0, 0⟩
    let libraries := [Shelf.referring none a b, .bare b]
    let g := Shelf.fresh libraries
    Available Shelf.store (g.request Shelf.environment (.exact a) none).2 b := by
  intro a b libraries g
  obtain ⟨items, hread, href⟩ := Descriptor.mem_references.mp
    (show b ∈ (Shelf.referring none a b).references by decide +kernel)
  have hlocate : Shelf.environment.locate (Shelf.fresh libraries).world (.exact a) none =
      .ok ⟨⟨Shelf.referring none a b, none⟩, none⟩ := Shelf.locate_exact rfl
  have hobtainable : Obtainable Shelf.environment Shelf.store
      (fun w => w.libraries = libraries) b := Shelf.obtainable (d := .bare b) rfl rfl
  have hstep := serve_step Shelf.environment (.exact a) none (Shelf.fresh libraries)
  have hworld : (Shelf.fresh libraries).world.libraries = libraries := rfl
  have hgets := hstep.succeeds hlocate hread
    (Shelf.store_commits libraries a.wrapperName_isIdentifier) hworld
  have hname : friendlyName (Shelf.referring none a b).declaredName = .ok none := rfl
  obtain ⟨m, hok⟩ :=
    hstep.answers (Shelf.store_lawful libraries) hlocate hgets hworld hname nofun
  rw [← request_answer] at hok
  exact (retried_iff Shelf.environment (.exact a) none (Shelf.fresh libraries)
    (fun w => w.libraries = libraries) (Shelf.store_lawful libraries) hworld hlocate hread href
    hobtainable hok).mpr (.inr (Shelf.not_available_fresh libraries a))

end Generator

/-! ## On a shelf -/

namespace Shelf

open Generator

/-- Other libraries do not change which wrappers there are. -/
theorem available_restock (g : Generator Shelf) (libraries : List Descriptor) (i : Identity) :
    Available store { g with world := ⟨libraries, g.world.modules⟩ } i ↔ Available store g i :=
  Iff.rfl

/-- While a library stands alone on the shelf, a request for it makes its wrapper only. -/
theorem available_alone {d : Descriptor} {items : Items} (hread : d.items = .ok items)
    (e : Identity) :
    Available store ((fresh [d]).serve environment (.exact d.identity) none).generator e ↔
      e = d.identity := by
  have hstep := serve_step environment (.exact d.identity) none (fresh [d])
  have hopen : (fresh [d]).openStore environment = (store, fresh [d]) := rfl
  rw [hopen] at hstep
  have hlocate : environment.locate (fresh [d]).world (.exact d.identity) none =
      .ok ⟨⟨d, none⟩, none⟩ := locate_exact (by simp [fresh, start, find])
  have hworld : (fresh [d]).world.libraries = [d] := rfl
  have hgets := hstep.succeeds hlocate hread
    (store_commits _ d.identity.wrapperName_isIdentifier) hworld
  have hmissing : ∀ {w : Shelf} {i : Identity}, w.libraries = [d] → i ≠ d.identity →
      ∃ error, environment.locate w (.exact i) none = .error error := by
    intro w i hw hi
    exact ⟨_, locate_exact_missing (by rw [hw]; exact find_singleton hi)⟩
  rw [hstep.available_iff_of_unlocated (store_lawful [d]) hlocate hworld hmissing hgets]
  exact or_iff_right (not_available_fresh [d] e)

section Restocked

variable {libraries : List Descriptor} {d : Descriptor} {items : Items} {e : Identity}
  {name : Option ModuleName} (hd : find libraries d.identity = some d)
  (hread : d.items = .ok items) (hname : friendlyName d.declaredName = .ok name)
  (he : e ∈ items.externals d.identity)
  (hobtainable : Obtainable environment store (fun w => w.libraries = libraries) e)

include hd hread hname he hobtainable

/-- A request for a library whose wrapper is there does not make up for a missing one. -/
theorem still_missing {g : Generator Shelf} (hg : g.destination = .given store)
    (hworld : g.world.libraries = libraries) (hthere : Available store g d.identity)
    (hmissing : ¬Available store g e) :
    (∃ m, (g.request environment (.exact d.identity) none).1 = .ok m) ∧
      ¬Available store (g.request environment (.exact d.identity) none).2 e := by
  have hstep := serve_step environment (.exact d.identity) none g
  have hopen : g.openStore environment = (store, g) := by
    unfold openStore
    rw [hg]
  rw [hopen] at hstep
  have hlocate : environment.locate g.world (.exact d.identity) none = .ok ⟨⟨d, none⟩, none⟩ :=
    locate_exact (by rw [hworld]; exact hd)
  have hgets := hstep.succeeds hlocate hread
    (store_commits _ d.identity.wrapperName_isIdentifier) hworld
  refine ⟨hstep.answers (store_lawful libraries) hlocate hgets hworld hname
    (fun m hm => store_commits libraries (friendlyName_isIdentifier (hm ▸ hname))), ?_⟩
  rw [request_generator, hstep.available_iff (store_lawful libraries) hlocate hread he hobtainable
    hworld hgets]
  rintro (hbefore | hnew)
  · exact hmissing hbefore
  · exact hnew hthere

/-- A library alone on the shelf is asked for, what it refers to is put beside it, and it is asked
for again: the reference is still dangling. -/
theorem restocked_missing (hne : e ≠ d.identity) (ask : Action Shelf)
    (hask : ask = .request environment (.exact d.identity) none) (alone : Generator Shelf)
    (halone : alone = fresh [d]) (g : Generator Shelf)
    (hg : g = run [ask, .change ⟨libraries, (run [ask] alone).world.modules⟩] alone) :
    g.world.libraries = libraries ∧
      (∃ m, (g.request environment (.exact d.identity) none).1 = .ok m) ∧
      ¬Available store (g.request environment (.exact d.identity) none).2 e := by
  have honly : ∀ e, Available store (run [ask] alone) e ↔ e = d.identity := by
    subst hask halone
    exact available_alone hread
  have hdestination : (run [ask] alone).destination = .given store := by
    subst hask halone
    exact serve_destination (.exact d.identity) none
  have hsecond : g = { run [ask] alone with
      world := ⟨libraries, (run [ask] alone).world.modules⟩ } :=
    hg.trans ((run_append [ask] [.change _] alone).trans (run_change _ _))
  rw [hsecond]
  refine ⟨rfl, still_missing hd hread hname he hobtainable hdestination rfl ?_ ?_⟩
  · exact (available_restock _ _ _).mpr ((honly _).mpr rfl)
  · exact fun hthere => hne ((honly e).mp ((available_restock _ _ _).mp hthere))

end Restocked

/-- So a request can succeed and leave a reference dangling to a library that can be had. -/
theorem dangling :
    let a : Identity := ⟨⟨0xa⟩, 1, 0, 0⟩
    let b : Identity := ⟨⟨0xb⟩, 1, 0, 0⟩
    let both := [referring none a b, .bare b]
    let ask : Action Shelf := .request environment (.exact a) none
    let alone := fresh [referring none a b]
    let g := run [ask, .change ⟨both, (run [ask] alone).world.modules⟩] alone
    b ∈ (referring none a b).references ∧ friendlyName (Descriptor.bare b).declaredName = .ok none ∧
      Obtainable environment store (fun w => w.libraries = both) b ∧
      g.world.libraries = both ∧ (∃ m, (g.request environment (.exact a) none).1 = .ok m) ∧
      ¬Available store (g.request environment (.exact a) none).2 b := by
  intro a b both ask alone g
  have href : b ∈ (referring none a b).references := by decide +kernel
  obtain ⟨items, hread, hitem⟩ := Descriptor.mem_references.mp href
  have hobtainable : Obtainable environment store (fun w => w.libraries = both) b :=
    obtainable (d := .bare b) rfl rfl
  have hname : friendlyName (referring none a b).declaredName = .ok none := rfl
  exact ⟨href, rfl, hobtainable, restocked_missing (d := referring none a b) rfl hread hname hitem
    hobtainable (by decide) ask rfl alone rfl g rfl⟩

end Shelf

end Typelib
