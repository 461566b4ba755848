import Typelib.Proofs.Generator.Moves

/-!
# Which wrappers there are

The wrapper of a library is `Made` when it is resident, and `Available` when it is resident or in
the store.  A request leaves what is available available (`Moves.available`).  The step that looks
for a wrapper, if it succeeds, makes the wrapper of its library and no other, and hands on the
libraries that this one refers to exactly if the wrapper was not available before
(`WrapperStep.externals_cases`); the step that looks for a friendly module does not change which
wrappers there are.
-/

namespace Typelib

universe u

variable {σ : Type u}

namespace Generator

/-- The wrapper of a library is resident. -/
def Made (g : Generator σ) (i : Identity) : Prop :=
  ∃ m, g.resident.get? i.wrapperName = some m

/-- The wrapper of a library is resident or in the store. -/
def Available (store : Store σ) (g : Generator σ) (i : Identity) : Prop :=
  g.Made i ∨ ∃ m, store.load g.world i.wrapperName = .hit m

/-- In a set of worlds a library can be located by its identity and read, and its wrapper can be
committed. -/
structure Obtainable (env : Environment σ) (store : Store σ) (worlds : σ → Prop) (e : Identity) :
    Prop where
  located : ∀ {world}, worlds world → ∃ located items,
    env.locate world (.exact e) none = .ok located ∧ located.library.identity = e ∧
      env.items located.library = .ok items
  commits : store.Commits worlds e.wrapperName

variable {env : Environment σ} {store : Store σ} {located : Located} {library : Library}
  {wrapper : Module} {identity i : Identity} {events : List Event} {g after : Generator σ}
  {externals : List Identity} {worlds : σ → Prop}

/-! ## Opening the store -/

theorem openStore_resident (env : Environment σ) (g : Generator σ) :
    (g.openStore env).2.resident = g.resident := by
  unfold openStore
  split <;> rfl

/-- Opening the store makes no wrapper resident. -/
theorem made_openStore (env : Environment σ) : (g.openStore env).2.Made i ↔ g.Made i := by
  unfold Made
  rw [openStore_resident]

/-! ## Modules that are kept -/

theorem made_keep {m : Module} (h : m.name = identity.wrapperName) :
    (g.keep m).Made i ↔ g.Made i ∨ i = identity := by
  unfold Made
  rw [resident_keep, h]
  by_cases hi : i = identity
  · subst hi
    simp
  · have hne : i.wrapperName ≠ identity.wrapperName :=
      fun heq => hi (Identity.wrapperName_injective heq)
    simp [hi, hne]

theorem made_keep_friendly {m : Module} (h : library.friendlyName = .ok (some m.name)) :
    (g.keep m).Made i ↔ g.Made i := by
  unfold Made
  rw [resident_keep, if_neg (friendlyName_ne_wrapperName h i).symm]

/-! ## What there is stays there -/

theorem Moves.made (hnamed : store.Named) (h : Moves store g after) (hmade : g.Made i) :
    after.Made i := by
  obtain ⟨m, hm⟩ := hmade
  exact ⟨m, h.resident_wrapper hnamed hm⟩

/-- A commit does not concern the wrappers under other names. -/
theorem stored_commit {name : ModuleName} {text : String} {r : Except StoreError Module}
    {world : σ} (hstore : store.Lawful worlds) (hworld : worlds g.world)
    (hname : IsIdentifier name.member)
    (hcommit : store.commit g.world name text = (r, world)) (hne : i.wrapperName ≠ name)
    {m : Module} :
    store.load world i.wrapperName = .hit m ↔ store.load g.world i.wrapperName = .hit m := by
  have hsame := @hstore.frame g.world name text i.wrapperName m hworld hname
    i.wrapperName_isIdentifier hne
  rwa [hcommit] at hsame

theorem Move.available (hstore : store.Lawful worlds) (hworld : worlds g.world)
    (h : Move store g after) (hthere : Available store g i) : Available store after i := by
  rcases hthere with hmade | ⟨m, hm⟩
  · exact .inl (Moves.made hstore.named (.single h) hmade)
  · -- nothing is committed under the name of a stored wrapper
    have hother : ∀ {name}, g.IsUnstored store name → i.wrapperName ≠ name := by
      rintro name hnone rfl
      exact hnone i rfl m hm
    cases h with
    | count stats => exact .inr ⟨m, hm⟩
    | fetch hname hfree hfound => exact .inr ⟨m, hm⟩
    | commit hname hfree hnone hcommit =>
      exact .inr ⟨m, (stored_commit hstore hworld hname hcommit (hother hnone)).mpr hm⟩
    | refuse hname hfree hnone hcommit =>
      exact .inr ⟨m, (stored_commit hstore hworld hname hcommit (hother hnone)).mpr hm⟩

theorem Moves.available (hstore : store.Lawful worlds) (hworld : worlds g.world)
    (h : Moves store g after) (hthere : Available store g i) : Available store after i := by
  induction h with
  | refl => exact hthere
  | tail hbefore hmove ih =>
    exact hmove.available hstore (Moves.worlds hstore hbefore hworld) ih

/-! ## The step of the wrapper -/

section Wrapper

variable (h : WrapperStep env store located g events (.ok (wrapper, externals), after))

include h

theorem WrapperStep.made_iff (hnamed : store.Named) :
    after.Made i ↔ g.Made i ∨ i = located.library.identity := by
  cases h with
  | resident hfound =>
    constructor
    · exact .inl
    · rintro (hmade | rfl)
      · exact hmade
      · exact ⟨_, hfound⟩
  | stored hnew hfound => exact made_keep (hnamed.load_name hfound)
  | generated hnew habsent hread hcommit => exact made_keep (hnamed.commit_name hcommit)

theorem WrapperStep.available_iff (hstore : store.Lawful worlds) (hworld : worlds g.world) :
    Available store after i ↔ Available store g i ∨ i = located.library.identity := by
  constructor
  · rintro (hmade | ⟨m, hm⟩)
    · exact ((h.made_iff hstore.named).mp hmade).imp_left .inl
    · by_cases hi : i = located.library.identity
      · exact .inr hi
      · have hne : i.wrapperName ≠ located.library.identity.wrapperName :=
          fun heq => hi (Identity.wrapperName_injective heq)
        cases h with
        | resident hfound => exact .inl (.inr ⟨m, hm⟩)
        | stored hnew hfound => exact .inl (.inr ⟨m, hm⟩)
        | generated hnew habsent hread hcommit =>
          have hname := located.library.identity.wrapperName_isIdentifier
          exact .inl (.inr ⟨m, (stored_commit hstore hworld hname hcommit hne).mp hm⟩)
  · rintro (hthere | rfl)
    · exact h.moves.available hstore hworld hthere
    · exact .inl ((h.made_iff hstore.named).mpr (.inr rfl))

/-- Libraries are handed on exactly if the wrapper was generated. -/
theorem WrapperStep.externals_cases :
    Available store g located.library.identity ∧ externals = [] ∨
    ¬Available store g located.library.identity ∧ ∃ items,
      env.items located.library = .ok items ∧
      externals = items.externals located.library.identity ∧
      .generated located.library items ∈ events := by
  cases h with
  | resident hfound => exact .inl ⟨.inl ⟨_, hfound⟩, rfl⟩
  | stored hnew hfound => exact .inl ⟨.inr ⟨_, hfound⟩, rfl⟩
  | generated hnew habsent hread hcommit =>
    refine .inr ⟨?_, _, hread, rfl, by simp⟩
    rintro (⟨m, hm⟩ | ⟨m, hm⟩)
    · rw [hnew] at hm
      cases hm
    · exact habsent m hm

end Wrapper

/-- A wrapper is come by if the items can be read and its commit succeeds. -/
theorem WrapperStep.succeeds {r : Except RequestError (Module × List Identity) × Generator σ}
    (h : WrapperStep env store located g events r) {items : Items}
    (hread : env.items located.library = .ok items)
    (hcommits : store.Commits worlds located.library.identity.wrapperName)
    (hworld : worlds g.world) : ∃ wrapper externals, r.1 = .ok (wrapper, externals) := by
  cases h with
  | resident hfound => exact ⟨_, _, rfl⟩
  | stored hnew hfound => exact ⟨_, _, rfl⟩
  | corrupt hnew habsent hcorrupt => rw [hread] at hcorrupt; cases hcorrupt
  | refused hnew habsent hparsed hrefused =>
    obtain ⟨m, world, hdone⟩ := hcommits g.world hworld _
    rw [hdone] at hrefused
    cases hrefused
  | generated hnew habsent hparsed hdone => exact ⟨_, _, rfl⟩

/-! ## The step of the friendly module -/

section Friendly

variable {r : Except RequestError (Option Module) × Generator σ}
  (h : FriendlyStep store library wrapper g events r)

include h

theorem FriendlyStep.made_iff (hnamed : store.Named) : r.2.Made i ↔ g.Made i := by
  cases h with
  | collision hname => rfl
  | nameless hname => rfl
  | resident hname hfound htext => rfl
  | stored hname hstale hfound htext =>
    exact made_keep_friendly (by rw [hname, hnamed.load_name hfound])
  | refused hname hstale habsent hcommit => rfl
  | generated hname hstale habsent hcommit =>
    exact made_keep_friendly (by rw [hname, hnamed.commit_name hcommit])

theorem FriendlyStep.available_iff (hstore : store.Lawful worlds) (hworld : worlds g.world) :
    Available store r.2 i ↔ Available store g i := by
  unfold Available
  rw [h.made_iff hstore.named]
  have hother : ∀ {name}, library.friendlyName = .ok (some name) → i.wrapperName ≠ name :=
    fun hname => (friendlyName_ne_wrapperName hname i).symm
  cases h with
  | collision hname => rfl
  | nameless hname => rfl
  | resident hname hfound htext => rfl
  | stored hname hstale hfound htext => rfl
  | refused hname hstale habsent hcommit =>
    exact or_congr_right (exists_congr fun _ =>
      stored_commit hstore hworld (friendlyName_isIdentifier hname) hcommit (hother hname))
  | generated hname hstale habsent hcommit =>
    exact or_congr_right (exists_congr fun _ =>
      stored_commit hstore hworld (friendlyName_isIdentifier hname) hcommit (hother hname))

/-- Unless its commit is refused, only the name of a library can be in the way of its friendly
module. -/
theorem FriendlyStep.succeeds_iff (hdone : ∀ e, r.1 ≠ .error (.persistence e)) :
    (∃ friendly, r.1 = .ok friendly) ↔ ∃ name, library.friendlyName = .ok name := by
  cases h with
  | collision hname => simp [hname]
  | nameless hname => simp [hname]
  | resident hname hfound htext => simp [hname]
  | stored hname hstale hfound htext => simp [hname]
  | refused hname hstale habsent hcommit => exact absurd rfl (hdone _)
  | generated hname hstale habsent hcommit => simp [hname]

theorem FriendlyStep.not_refused
    (hcommits : ∀ name, library.friendlyName = .ok (some name) → store.Commits worlds name)
    (hworld : worlds g.world) (e : StoreError) : r.1 ≠ .error (.persistence e) := by
  cases h with
  | collision hname => simp
  | nameless hname => simp
  | resident hname hfound htext => simp
  | stored hname hstale hfound htext => simp
  | refused hname hstale habsent hcommit =>
    obtain ⟨m, world, hdone⟩ := hcommits _ hname g.world hworld _
    rw [hdone] at hcommit
    cases hcommit
  | generated hname hstale habsent hcommit => simp

end Friendly

/-! ## Taking a library up -/

section TakingUp

variable {r : Outcome × Generator σ} (hstore : store.Lawful worlds) (hworld : worlds g.world)

include hstore hworld

/-- Taking a library up concerns no other wrapper than its own. -/
theorem TakeUpStep.available_other (h : TakeUpStep env store identity g events r)
    (hne : i ≠ identity) : Available store r.2 i ↔ Available store g i := by
  cases h with
  | unlocated hlocate => rfl
  | mismatch hlocate hother => rfl
  | failed hlocate hidentity hwrapper =>
    cases hwrapper with
    | corrupt hnew habsent hread => rfl
    | refused hnew habsent hread hcommit =>
      have hother : i.wrapperName ≠ identity.wrapperName :=
        fun heq => hne (Identity.wrapperName_injective heq)
      rw [hidentity] at hcommit
      exact or_congr_right (exists_congr fun _ =>
        stored_commit hstore hworld identity.wrapperName_isIdentifier hcommit hother)
  | finished hlocate hidentity hwrapper hfriendly =>
    have hbetween := hwrapper.moves.worlds hstore hworld
    rw [hfriendly.available_iff hstore hbetween, hwrapper.available_iff hstore hworld, hidentity,
      or_iff_left hne]

/-- A library that can be had gets its wrapper, which is generated unless it was available. -/
theorem TakeUpStep.obtains (he : Obtainable env store worlds identity)
    (h : TakeUpStep env store identity g events r) :
    r.2.Made identity ∧ (Available store g identity ∨
      ∃ library items, .generated library items ∈ events ∧ library.identity = identity) := by
  obtain ⟨located, items, hlocate, hidentity, hread⟩ := he.located hworld
  cases h with
  | unlocated hnone =>
    rw [hlocate] at hnone
    cases hnone
  | mismatch hfound hother =>
    obtain rfl := Except.ok.inj (hfound.symm.trans hlocate)
    exact absurd hidentity hother
  | @failed found _ _ _ hfound hloaded hwrapper =>
    obtain rfl : found = located := Except.ok.inj (hfound.symm.trans hlocate)
    obtain ⟨wrapper, externals, hok⟩ := hwrapper.succeeds hread
      (by rw [hidentity]; exact he.commits) hworld
    cases hok
  | @finished found _ _ _ _ _ _ hfound hloaded hwrapper hfriendly =>
    refine ⟨?_, ?_⟩
    · rw [hfriendly.made_iff hstore.named, hwrapper.made_iff hstore.named]
      exact .inr hloaded.symm
    · rcases hwrapper.externals_cases with ⟨hthere, -⟩ | ⟨-, items', -, -, hevent⟩
      · exact .inl (hloaded ▸ hthere)
      · exact .inr ⟨_, items', List.mem_append_left _ hevent, hloaded⟩

/-- A library that can be had and is taken up in a chase gets its wrapper. -/
theorem Taken.obtains {visits : List Visit} (he : Obtainable env store worlds i)
    (h : Taken env store g visits after) (hvisit : i ∈ visits.map Visit.identity) :
    after.Made i := by
  induction h with
  | nil => cases hvisit
  | @cons g after identity visits h ih =>
    have hstep := takeUp_step env store identity g
    rcases List.mem_cons.mp hvisit with rfl | hlater
    · exact h.moves.made hstore.named (hstep.obtains hstore hworld he).1
    · exact ih (hstep.moves.worlds hstore hworld) hlater

/-- That wrapper is generated unless it was available before the chase. -/
theorem Taken.generates {visits : List Visit} (he : Obtainable env store worlds i)
    (h : Taken env store g visits after) (hvisit : i ∈ visits.map Visit.identity)
    (hnew : ¬Available store g i) :
    ∃ library items, .generated library items ∈ visitEvents env store visits g ∧
      library.identity = i := by
  induction h with
  | nil => cases hvisit
  | @cons g after identity visits h ih =>
    have hstep := takeUp_step env store identity g
    by_cases hi : i = identity
    · subst hi
      obtain ⟨library, items, hevent, hlibrary⟩ :=
        (hstep.obtains hstore hworld he).2.resolve_left hnew
      exact ⟨library, items, List.mem_append_left _ hevent, hlibrary⟩
    · have hlater := (List.mem_cons.mp hvisit).resolve_left hi
      rw [← hstep.available_other hstore hworld hi] at hnew
      obtain ⟨library, items, hevent, hlibrary⟩ :=
        ih (hstep.moves.worlds hstore hworld) hlater hnew
      exact ⟨library, items, List.mem_append_right _ hevent, hlibrary⟩

end TakingUp

/-! ## Requests -/

section Requests

variable {designator : Designator} {base : Option Path} {served : Served σ}

/-- A request gets past the wrapper of its library if that is come by. -/
theorem ServeStep.succeeds (h : ServeStep env store designator base g events served)
    (hlocate : env.locate g.world designator base = .ok located) {items : Items}
    (hread : env.items located.library = .ok items)
    (hcommits : store.Commits worlds located.library.identity.wrapperName)
    (hworld : worlds g.world) (e : RequestError) : served.root ≠ .failed e := by
  cases h with
  | unlocated hnone =>
    rw [hlocate] at hnone
    cases hnone
  | failed hlocated hwrapper =>
    obtain rfl := Except.ok.inj (hlocated.symm.trans hlocate)
    obtain ⟨wrapper, externals, hok⟩ := hwrapper.succeeds hread hcommits hworld
    cases hok
  | @finished _ _ _ _ _ _ _ r =>
    obtain ⟨e' | friendly, after⟩ := r <;> exact Outcome.noConfusion

/-- A request that gets past the wrapper of its library leaves it resident. -/
theorem ServeStep.made (hnamed : store.Named)
    (h : ServeStep env store designator base g events served)
    (hlocate : env.locate g.world designator base = .ok located)
    (hroot : ∀ e, served.root ≠ .failed e) : served.generator.Made located.library.identity := by
  cases h with
  | unlocated hnone => exact absurd rfl (hroot _)
  | failed hlocated hwrapper => exact absurd rfl (hroot _)
  | @finished found _ _ _ externals between _ _ hlocated hwrapper hchase hfriendly =>
    obtain rfl : found = located := Except.ok.inj (hlocated.symm.trans hlocate)
    have hvisits := Taken.of_chaseFrom hchase
    have hmade := (hwrapper.made_iff hnamed).mpr (.inr rfl)
    exact hfriendly.moves.made hnamed (hvisits.moves.made hnamed hmade)

/-- A request that gets past the wrapper of its library succeeds if the name of the library is not
in the way of its friendly module, which can be committed. -/
theorem ServeStep.answers (hstore : store.Lawful worlds)
    (h : ServeStep env store designator base g events served)
    (hlocate : env.locate g.world designator base = .ok located)
    (hroot : ∀ e, served.root ≠ .failed e) (hworld : worlds g.world)
    {name : Option ModuleName} (hname : located.library.friendlyName = .ok name)
    (hcommits : ∀ m, name = some m → store.Commits worlds m) :
    ∃ m, served.root.answer = .ok m := by
  cases h with
  | unlocated hnone => exact absurd rfl (hroot _)
  | failed hlocated hwrapper => exact absurd rfl (hroot _)
  | @finished found _ _ wrapper externals between chased r hlocated hwrapper hchase hfriendly =>
    obtain rfl : found = located := Except.ok.inj (hlocated.symm.trans hlocate)
    have hvisits := Taken.of_chaseFrom hchase
    have hchased := hvisits.moves.worlds hstore (hwrapper.moves.worlds hstore hworld)
    have hdone := hfriendly.not_refused (fun m hm => ?_) hchased
    · obtain ⟨friendly, hok⟩ := (hfriendly.succeeds_iff hdone).mpr ⟨name, hname⟩
      exact ⟨friendly.getD wrapper, by rw [hok]; rfl⟩
    · exact hcommits m (Except.ok.inj (hname.symm.trans hm))

end Requests

end Generator

end Typelib
