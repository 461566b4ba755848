import Typelib.Proofs.Generator.Shelf

/-!
# Which libraries a request takes up

A wrapper that is generated refers to other libraries, and the request takes them up, but not
always.  `mem_visits_iff` says exactly when: a library is taken up if it is not the one asked for
and the wrapper of some library was generated that refers to it; but the latter has to be the
library asked for, or its name must not be in the way of its friendly module.  A library that is
taken up gets its friendly module before it hands on what it refers to, and when that fails, it
hands nothing on; so what only such a library refers to is left out (`left_out`).
-/

namespace Typelib

universe u

variable {σ : Type u}

namespace Generator

variable {env : Environment σ} {store : Store σ} {worlds : σ → Prop} {located : Located}
  {library : Library} {wrapper : Module} {items : Items} {identity e : Identity}
  {events : List Event} {g after : Generator σ} {visits : List Visit}

/-! ## Wrappers that are generated -/

theorem WrapperStep.of_generated
    {r : Except RequestError (Module × List Identity) × Generator σ}
    (h : WrapperStep env store located g events r) (hevent : .generated library items ∈ events) :
    library = located.library ∧ env.items library = .ok items ∧
      ∃ wrapper, r.1 = .ok (wrapper, items.externals library.identity) := by
  cases h with
  | resident hfound => cases hevent
  | stored hnew hfound => cases hevent
  | corrupt hnew habsent hread => simp at hevent
  | refused hnew habsent hread hcommit => simp at hevent
  | generated hnew habsent hread hcommit =>
    simp only [List.mem_cons, reduceCtorEq, Event.generated.injEq, List.not_mem_nil, or_false,
      false_or] at hevent
    obtain ⟨rfl, rfl⟩ := hevent
    exact ⟨rfl, hread, _, rfl⟩

theorem FriendlyStep.not_generated {r : Except RequestError (Option Module) × Generator σ}
    {other : Library} (h : FriendlyStep store library wrapper g events r) :
    .generated other items ∉ events := by
  cases h <;> simp

theorem TakeUpStep.of_generated {r : Outcome × Generator σ}
    (h : TakeUpStep env store identity g events r) (hevent : .generated library items ∈ events) :
    library.identity = identity ∧ env.items library = .ok items ∧
      ∃ source, env.locate g.world (.exact identity) none = .ok ⟨library, source⟩ := by
  cases h with
  | unlocated hlocate => cases hevent
  | mismatch hlocate hother => cases hevent
  | failed hlocate hidentity hwrapper =>
    obtain ⟨rfl, hread, -⟩ := hwrapper.of_generated hevent
    exact ⟨hidentity, hread, _, hlocate⟩
  | finished hlocate hidentity hwrapper hfriendly =>
    have hevent := (List.mem_append.mp hevent).resolve_right hfriendly.not_generated
    obtain ⟨rfl, hread, -⟩ := hwrapper.of_generated hevent
    exact ⟨hidentity, hread, _, hlocate⟩

/-- The wrappers that a chase generates are those of libraries it takes up, as they are located by
their identities. -/
theorem Taken.of_generated (h : Taken env store g visits after)
    (hevent : .generated library items ∈ visitEvents env store visits g) :
    library.identity ∈ visits.map Visit.identity ∧ env.items library = .ok items ∧
      ∃ between source, Moves store g between ∧
        env.locate between.world (.exact library.identity) none = .ok ⟨library, source⟩ := by
  induction h with
  | nil => cases hevent
  | @cons g after identity visits h ih =>
    have hstep := takeUp_step env store identity g
    rcases List.mem_append.mp hevent with hfirst | hlater
    · obtain ⟨rfl, hread, source, hlocate⟩ := hstep.of_generated hfirst
      exact ⟨List.mem_cons_self, hread, g, source, .refl, hlocate⟩
    · obtain ⟨hvisit, hread, between, source, hmoves, hlocate⟩ := ih hlater
      exact ⟨List.mem_cons_of_mem _ hvisit, hread, between, source, hstep.moves.trans hmoves,
        hlocate⟩

/-- The wrapper of a library is generated, and the library hands on what that refers to. -/
def HandsOn (events : List Event) (e : Identity) : Prop :=
  ∃ library items, .generated library items ∈ events ∧ e ∈ items.externals library.identity ∧
    ∃ name, library.friendlyName = .ok name

theorem handsOn_append {more : List Event} :
    HandsOn (events ++ more) e ↔ HandsOn events e ∨ HandsOn more e := by
  unfold HandsOn
  simp only [List.mem_append, or_and_right, exists_or]

theorem FriendlyStep.not_handsOn {r : Except RequestError (Option Module) × Generator σ}
    (h : FriendlyStep store library wrapper g events r) : ¬HandsOn events e := by
  rintro ⟨other, items, hevent, -⟩
  exact h.not_generated hevent

/-! ## What is handed on -/

theorem WrapperStep.mem_externals {externals : List Identity}
    (h : WrapperStep env store located g events (.ok (wrapper, externals), after)) :
    e ∈ externals ↔ ∃ items, .generated located.library items ∈ events ∧
      e ∈ items.externals located.library.identity := by
  constructor
  · intro he
    rcases h.externals_cases with ⟨-, rfl⟩ | ⟨-, items, -, rfl, hevent⟩
    · cases he
    · exact ⟨items, hevent, he⟩
  · rintro ⟨items, hevent, he⟩
    obtain ⟨-, -, _, hok⟩ := h.of_generated hevent
    cases hok
    exact he

theorem TakeUpStep.mem_found {r : Outcome × Generator σ}
    (h : TakeUpStep env store identity g events r) (hdone : ¬r.1.IsRefused) :
    e ∈ r.1.found ↔ HandsOn events e := by
  cases h with
  | unlocated hlocate => simp [Outcome.found, HandsOn]
  | mismatch hlocate hother => simp [Outcome.found, HandsOn]
  | failed hlocate hidentity hwrapper =>
    refine iff_of_false (by simp [Outcome.found]) ?_
    rintro ⟨library, items, hevent, -⟩
    obtain ⟨-, -, _, hok⟩ := hwrapper.of_generated hevent
    cases hok
  | @finished located _ _ wrapper externals between r hlocate hidentity hwrapper hfriendly =>
    rw [handsOn_append, or_iff_left hfriendly.not_handsOn]
    have hnamed := hfriendly.succeeds_iff fun error herror =>
      hdone ⟨wrapper, externals, error, by rw [herror]; rfl⟩
    rcases hr : r.1 with error | friendly
    · -- what the wrapper refers to is lost with the error of the friendly module
      refine iff_of_false (by simp [Outcome.finished, Outcome.found]) ?_
      rintro ⟨library, items, hevent, -, hname⟩
      rw [(hwrapper.of_generated hevent).1, ← hnamed, hr] at hname
      obtain ⟨_, hok⟩ := hname
      cases hok
    · have hfound : (Outcome.finished wrapper externals (.ok friendly)).found = externals := rfl
      rw [hfound, hwrapper.mem_externals]
      constructor
      · rintro ⟨items, hevent, he⟩
        exact ⟨_, items, hevent, he, hnamed.mp ⟨friendly, hr⟩⟩
      · rintro ⟨library, items, hevent, he, -⟩
        obtain ⟨rfl, -⟩ := hwrapper.of_generated hevent
        exact ⟨items, hevent, he⟩

theorem Taken.exists_found (h : Taken env store g visits after)
    (hdone : ∀ visit ∈ visits, ¬visit.outcome.IsRefused) :
    (∃ visit ∈ visits, e ∈ visit.outcome.found) ↔ HandsOn (visitEvents env store visits g) e := by
  induction h with
  | nil => simp [visitEvents, HandsOn]
  | @cons g after identity visits h ih =>
    rw [List.forall_mem_cons] at hdone
    simp only [List.mem_cons, exists_eq_or_imp, visitEvents, handsOn_append,
      (takeUp_step env store identity g).mem_found hdone.1, ih hdone.2]

/-- The libraries that a request takes up, when its commits succeed. -/
theorem ServeStep.mem_visits_iff {designator : Designator} {base : Option Path}
    {served : Served σ} (h : ServeStep env store designator base g events served)
    (hlocate : env.locate g.world designator base = .ok located)
    (hdone : ∀ visit ∈ served.visits, ¬visit.outcome.IsRefused) :
    e ∈ served.visits.map Visit.identity ↔
      e ≠ located.library.identity ∧ ∃ library items, .generated library items ∈ events ∧
        e ∈ items.externals library.identity ∧
        (library.identity = located.library.identity ∨
          ∃ name, library.friendlyName = .ok name) := by
  cases h with
  | unlocated hnone =>
    rw [hlocate] at hnone
    cases hnone
  | failed hfound hwrapper =>
    refine iff_of_false (by simp) ?_
    rintro ⟨-, library, items, hevent, -⟩
    obtain ⟨-, -, _, hok⟩ := hwrapper.of_generated hevent
    cases hok
  | @finished found _ _ wrapper externals between chased r hfound hwrapper hchase hfriendly =>
    obtain rfl : found = located := Except.ok.inj (hfound.symm.trans hlocate)
    have hvisits := Taken.of_chaseFrom hchase
    rw [mem_chaseFrom_iff hchase, hvisits.exists_found hdone, hwrapper.mem_externals]
    refine and_congr_right fun _ => ?_
    constructor
    · rintro (⟨items, hevent, he⟩ | ⟨library, items, hevent, he, hname⟩)
      · exact ⟨_, items, List.mem_append_left _ hevent, he, .inl rfl⟩
      · exact ⟨library, items, List.mem_append_right _ (List.mem_append_left _ hevent), he,
          .inr hname⟩
    · rintro ⟨library, items, hevent, he, hfrom⟩
      simp only [List.mem_append, hfriendly.not_generated, or_false] at hevent
      rcases hevent with hfirst | hlater
      · obtain ⟨rfl, -⟩ := hwrapper.of_generated hfirst
        exact .inl ⟨items, hfirst, he⟩
      · have hvisit := (hvisits.of_generated hlater).1
        have hother := ((mem_chaseFrom_iff hchase).mp hvisit).1
        exact .inr ⟨library, items, hlater, he, hfrom.resolve_left hother⟩

/-! ## Commits that succeed -/

section Commits

variable (hstore : store.Lawful worlds)
  (hcommits : ∀ {name : ModuleName}, IsIdentifier name.member → store.Commits worlds name)
  (hworld : worlds g.world)

include hstore hcommits hworld

theorem TakeUpStep.not_refused {r : Outcome × Generator σ}
    (h : TakeUpStep env store identity g events r) : ¬r.1.IsRefused := by
  rintro ⟨wrapper, externals, error, herror⟩
  cases h with
  | unlocated hlocate => cases herror
  | mismatch hlocate hother => cases herror
  | failed hlocate hidentity hwrapper => cases herror
  | @finished _ _ _ _ _ _ r hlocate hidentity hwrapper hfriendly =>
    have hdone := hfriendly.not_refused
      (fun name hname => hcommits (friendlyName_isIdentifier hname))
      (hwrapper.moves.worlds hstore hworld) error
    rcases hr : r.1 with e | friendly <;> rw [hr] at herror hdone <;> cases herror
    exact hdone rfl

theorem Taken.not_refused (h : Taken env store g visits after) :
    ∀ visit ∈ visits, ¬visit.outcome.IsRefused := by
  induction h with
  | nil => simp
  | @cons g after identity visits h ih =>
    have hstep := takeUp_step env store identity g
    exact List.forall_mem_cons.mpr ⟨hstep.not_refused hstore hcommits hworld,
      ih (hstep.moves.worlds hstore hworld)⟩

theorem ServeStep.not_refused {designator : Designator} {base : Option Path} {served : Served σ}
    (h : ServeStep env store designator base g events served) :
    ∀ visit ∈ served.visits, ¬visit.outcome.IsRefused := by
  cases h with
  | unlocated hlocate => simp
  | failed hlocate hwrapper => simp
  | @finished found _ _ wrapper externals between chased r hfound hwrapper hchase hfriendly =>
    have hvisits := Taken.of_chaseFrom hchase
    exact hvisits.not_refused hstore hcommits (hwrapper.moves.worlds hstore hworld)

end Commits

/-! ## What a request generates -/

section Requests

variable {designator : Designator} {base : Option Path} {served : Served σ}
  (h : ServeStep env store designator base g events served)

include h

/-- The wrapper of the library asked for is generated unless it is available. -/
theorem ServeStep.generates_root (hlocate : env.locate g.world designator base = .ok located)
    (hread : env.items located.library = .ok items) (hroot : ∀ error, served.root ≠ .failed error)
    (hnew : ¬Available store g located.library.identity) :
    .generated located.library items ∈ events := by
  cases h with
  | unlocated hnone => exact absurd rfl (hroot _)
  | failed hfound hwrapper => exact absurd rfl (hroot _)
  | @finished found _ _ wrapper externals between chased r hfound hwrapper hchase hfriendly =>
    obtain rfl : found = located := Except.ok.inj (hfound.symm.trans hlocate)
    obtain ⟨-, items', hread', -, hevent⟩ :=
      hwrapper.externals_cases.resolve_left fun hthere => hnew hthere.1
    obtain rfl := Except.ok.inj (hread.symm.trans hread')
    exact List.mem_append_left _ hevent

/-- The wrapper of a library that can be had and is taken up is generated unless it is available. -/
theorem ServeStep.generates (hstore : store.Lawful worlds) (he : Obtainable env store worlds e)
    (hworld : worlds g.world)
    (hvisit : e ∈ served.visits.map Visit.identity) (hnew : ¬Available store g e) :
    ∃ library items, .generated library items ∈ events ∧ library.identity = e := by
  cases h with
  | unlocated hnone => cases hvisit
  | failed hfound hwrapper => cases hvisit
  | @finished found _ _ wrapper externals between chased r hfound hwrapper hchase hfriendly =>
    have hvisits := Taken.of_chaseFrom hchase
    have hother := ((mem_chaseFrom_iff hchase).mp hvisit).1
    have hstill : ¬Available store between e := by
      rw [hwrapper.available_iff hstore hworld, or_iff_left hother]
      exact hnew
    obtain ⟨library, items, hevent, hlibrary⟩ := hvisits.generates hstore
      (hwrapper.moves.worlds hstore hworld) he hvisit hstill
    exact ⟨library, items, List.mem_append_right _ (List.mem_append_left _ hevent), hlibrary⟩

/-- The wrappers that are generated are those of libraries as they are located. -/
theorem ServeStep.of_generated (hevent : .generated library items ∈ events) :
    env.items library = .ok items ∧
      ((∃ source, env.locate g.world designator base = .ok ⟨library, source⟩) ∨
        ∃ between source, Moves store g between ∧
          env.locate between.world (.exact library.identity) none = .ok ⟨library, source⟩) := by
  cases h with
  | unlocated hnone => cases hevent
  | failed hfound hwrapper =>
    obtain ⟨rfl, hread, -⟩ := hwrapper.of_generated hevent
    exact ⟨hread, .inl ⟨_, hfound⟩⟩
  | @finished found _ _ wrapper externals between chased r hfound hwrapper hchase hfriendly =>
    have hvisits := Taken.of_chaseFrom hchase
    simp only [List.mem_append, hfriendly.not_generated, or_false] at hevent
    rcases hevent with hfirst | hlater
    · obtain ⟨rfl, hread, -⟩ := hwrapper.of_generated hfirst
      exact ⟨hread, .inl ⟨_, hfound⟩⟩
    · obtain ⟨-, hread, later, source, hmoves, hlocate⟩ := hvisits.of_generated hlater
      exact ⟨hread, .inr ⟨later, source, hwrapper.moves.trans hmoves, hlocate⟩⟩

end Requests

/-- A request takes up exactly the libraries, other than the one asked for, that a generated
wrapper refers to, where that is the wrapper of the library asked for or of one whose name is not
in the way of its friendly module. -/
theorem visited_iff (env : Environment σ) (designator : Designator) (base : Option Path)
    (g : Generator σ) {located : Located}
    (hlocate : env.locate (g.openStore env).2.world designator base = .ok located)
    (hdone : ∀ visit ∈ (g.serve env designator base).visits, ¬visit.outcome.IsRefused)
    (e : Identity) :
    e ∈ (g.serve env designator base).visits.map Visit.identity ↔
      e ≠ located.library.identity ∧ ∃ library items,
        .generated library items ∈ g.serveEvents env designator base ∧
        e ∈ items.externals library.identity ∧
        (library.identity = located.library.identity ∨
          ∃ name, library.friendlyName = .ok name) :=
  (serve_step env designator base g).mem_visits_iff hlocate hdone

/-- A request to a fresh generator takes up what its library refers to. -/
theorem second_visited :
    let a : Identity := ⟨⟨0xa⟩, 1, 0, 0⟩
    let b : Identity := ⟨⟨0xb⟩, 1, 0, 0⟩
    let libraries := [Shelf.referring none a b, .bare b]
    b ∈ ((Shelf.fresh libraries).serve Shelf.environment (.exact a) none).visits.map
      Visit.identity := by
  intro a b libraries
  obtain ⟨items, hread, hb⟩ := Descriptor.mem_references.mp
    (show b ∈ (Shelf.referring none a b).references by decide +kernel)
  have hlocate : Shelf.environment.locate (Shelf.fresh libraries).world (.exact a) none =
      .ok ⟨⟨Shelf.referring none a b, none⟩, none⟩ := Shelf.locate_exact rfl
  have hstep := serve_step Shelf.environment (.exact a) none (Shelf.fresh libraries)
  have hworld : (Shelf.fresh libraries).world.libraries = libraries := rfl
  have hgets := hstep.succeeds hlocate hread
    (Shelf.store_commits libraries a.wrapperName_isIdentifier) hworld
  have hroot := hstep.generates_root hlocate hread hgets (Shelf.not_available_fresh libraries a)
  have hdone :=
    hstep.not_refused (Shelf.store_lawful libraries) (Shelf.store_commits libraries) hworld
  exact (visited_iff Shelf.environment (.exact a) none (Shelf.fresh libraries) hlocate hdone
    b).mpr ⟨by decide, _, items, hroot, hb, .inl rfl⟩

end Generator

/-! ## On a shelf -/

namespace Shelf

open Generator

variable {libraries : List Descriptor} {a b c : Identity} {d d' : Descriptor} {items items' : Items}

theorem find_of_generated {g : Generator Shelf} {events : List Event} {served : Served Shelf}
    {library : Library} (h : ServeStep environment store (.exact a) none g events served)
    (hworld : g.world.libraries = libraries) (hevent : .generated library items ∈ events) :
    library.descriptor.items = .ok items ∧
      find libraries library.identity = some library.descriptor := by
  obtain ⟨hread, ⟨source, hlocate⟩ | ⟨later, source, hmoves, hlocate⟩⟩ := h.of_generated hevent
  · have hfind := find_of_locate hlocate
    rw [hworld] at hfind
    rw [Library.identity, find_identity hfind]
    exact ⟨hread, hfind⟩
  · have hfind := find_of_locate hlocate
    rw [hmoves.worlds (store_lawful libraries) hworld] at hfind
    exact ⟨hread, hfind⟩

section Row

variable (ha : find libraries a = some d) (hread : d.items = .ok items)

include ha hread

/-- The steps of a request for a library that can be read, none of which is refused. -/
theorem serve_readable :
    ServeStep environment store (.exact a) none (fresh libraries)
      ((fresh libraries).serveEvents environment (.exact a) none)
      ((fresh libraries).serve environment (.exact a) none) ∧
    environment.locate (fresh libraries).world (.exact a) none = .ok ⟨⟨d, none⟩, none⟩ ∧
    .generated ⟨d, none⟩ items ∈ (fresh libraries).serveEvents environment (.exact a) none ∧
    ∀ visit ∈ ((fresh libraries).serve environment (.exact a) none).visits,
      ¬visit.outcome.IsRefused := by
  have hworld : (fresh libraries).world.libraries = libraries := rfl
  have hopen : (fresh libraries).openStore environment = (store, fresh libraries) := rfl
  have hstep := serve_step environment (.exact a) none (fresh libraries)
  rw [hopen] at hstep
  have hlocate : environment.locate (fresh libraries).world (.exact a) none =
      .ok ⟨⟨d, none⟩, none⟩ := locate_exact ha
  have hgets := hstep.succeeds hlocate hread
    (store_commits libraries d.identity.wrapperName_isIdentifier) hworld
  exact ⟨hstep, hlocate, hstep.generates_root hlocate hread hgets (not_available_fresh libraries _),
    hstep.not_refused (store_lawful libraries) (store_commits libraries) hworld⟩

/-- The wrapper of a library that the one asked for refers to is generated. -/
theorem second_generated (hb : b ∈ items.externals a) (hba : b ≠ a)
    (hd' : find libraries b = some d') (hread' : d'.items = .ok items') :
    ∃ library, .generated library items' ∈
        (fresh libraries).serveEvents environment (.exact a) none ∧ library.identity = b := by
  have hworld : (fresh libraries).world.libraries = libraries := rfl
  have hidentity : d.identity = a := find_identity ha
  obtain ⟨hstep, hlocate, hroot, hdone⟩ := serve_readable ha hread
  have hvisit : b ∈
      ((fresh libraries).serve environment (.exact a) none).visits.map Visit.identity := by
    refine (hstep.mem_visits_iff hlocate hdone).mpr ⟨?_, ⟨d, none⟩, items, hroot, ?_, .inl rfl⟩
    · rw [Library.identity, hidentity]
      exact hba
    · rw [Library.identity, hidentity]
      exact hb
  obtain ⟨library, items'', hevent, hlibrary⟩ := hstep.generates (store_lawful libraries)
    (obtainable hd' hread') hworld hvisit (not_available_fresh libraries b)
  obtain ⟨hitems, hfind⟩ := find_of_generated hstep hworld hevent
  rw [hlibrary] at hfind
  obtain rfl := Option.some.inj (hd'.symm.trans hfind)
  obtain rfl := Except.ok.inj (hread'.symm.trans hitems)
  exact ⟨library, hevent, hlibrary⟩

/-- What is referred to only from libraries whose names are in the way is not taken up, even if
the wrapper of such a library is generated. -/
theorem left_out (honly : ∀ x ∈ libraries, c ∈ x.references →
      x.identity ≠ a ∧ (friendlyName x.declaredName).isOk = false) :
    c ∉ ((fresh libraries).serve environment (.exact a) none).visits.map Visit.identity := by
  obtain ⟨hstep, hlocate, -, hdone⟩ := serve_readable ha hread
  intro hvisited
  obtain ⟨-, other, items', hother, hfrom, hname⟩ :=
    (hstep.mem_visits_iff hlocate hdone).mp hvisited
  obtain ⟨hreadOther, hfindOther⟩ := find_of_generated hstep rfl hother
  obtain ⟨hne, hcollision⟩ := honly other.descriptor (List.mem_of_find?_eq_some hfindOther)
    (Descriptor.mem_references.mpr ⟨items', hreadOther, hfrom⟩)
  rcases hname with hself | ⟨name, hname⟩
  · exact hne (hself.trans (find_identity ha))
  · rw [Library.friendlyName, Library.declaredName] at hname
    rw [hname] at hcollision
    cases hcollision

end Row

/-- The second of three libraries in a row has the name of a wrapper: its wrapper is generated, and
the third library, which it refers to, is not taken up. -/
theorem third_left_out :
    let a : Identity := ⟨⟨0xa⟩, 1, 0, 0⟩
    let b : Identity := ⟨⟨0xb⟩, 1, 0, 0⟩
    let c : Identity := ⟨⟨0xc⟩, 1, 0, 0⟩
    let libraries := [referring (some "First") a b,
      referring (some "_11111111_1111_1111_1111_111111111111_0_1_0") b c, .bare c]
    (∀ {name : ModuleName}, IsIdentifier name.member →
      store.Commits (fun w => w.libraries = libraries) name) ∧
    c ≠ a ∧ (∃ library items,
      .generated library items ∈ (fresh libraries).serveEvents environment (.exact a) none ∧
      library.identity = b ∧ c ∈ items.externals library.identity) ∧
    c ∉ ((fresh libraries).serve environment (.exact a) none).visits.map Visit.identity := by
  intro a b c libraries
  obtain ⟨items, hread, hb⟩ := Descriptor.mem_references.mp
    (show b ∈ (referring (some "First") a b).references by decide +kernel)
  obtain ⟨items', hread', hc⟩ := Descriptor.mem_references.mp
    (show c ∈ (referring (some "_11111111_1111_1111_1111_111111111111_0_1_0") b c).references by
      decide +kernel)
  have honly : ∀ x ∈ libraries, c ∈ x.references →
      x.identity ≠ a ∧ (friendlyName x.declaredName).isOk = false := by decide +kernel
  have ha : find libraries a = some (referring (some "First") a b) := rfl
  obtain ⟨library, hevent, hlibrary⟩ := second_generated ha hread hb (by decide) rfl hread'
  have hrefers : c ∈ items'.externals library.identity := by
    rw [hlibrary]
    exact hc
  exact ⟨store_commits libraries, by decide, ⟨library, items', hevent, hlibrary, hrefers⟩,
    left_out ha hread honly⟩

end Shelf

end Typelib
