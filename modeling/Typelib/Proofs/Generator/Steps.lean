import Typelib.Generator.Request
import Typelib.Proofs.Naming.Stems

/-!
# What the steps of a request do

A request makes the modules of libraries one after the other, and it makes the two modules of one
library by `Generator.ensureWrapper` and `Generator.ensureFriendly`.  `WrapperStep` and
`FriendlyStep` list every way these can end: the answer, the generator afterwards, and the
`Event`s on the way.  `ensureWrapper_step` and `ensureFriendly_step` say that the lists are
complete; everything that is proved about requests rests on these two, and no later proof unfolds
a look-up or a commit.

Events record what a look-up that fails leads to: that the items of a library are read, that a
wrapper is generated and committed, that a friendly module is.
-/

namespace Typelib

universe u

variable {σ : Type u}

/-- What a request does for a library, beyond looking modules up. -/
inductive Event where
  /-- The items of a library were asked for, and could not be read. -/
  | corrupt (library : Library)
  /-- The items of a library were read. -/
  | parsed (library : Library)
  /-- The wrapper of a library was generated from its items and committed. -/
  | generated (library : Library) (items : Items)
  /-- The friendly module of a library was generated and committed. -/
  | aliased (library : Library) (name : ModuleName)

/-- The event reads a library of the given identity, or generates its wrapper. -/
def Event.IsWorkOn (i : Identity) : Event → Prop
  | corrupt library => library.identity = i
  | parsed library => library.identity = i
  | generated library _ => library.identity = i
  | aliased .. => False

/-- The event generates the wrapper of a library of the given identity. -/
def Event.Generates (i : Identity) : Event → Prop
  | generated library _ => library.identity = i
  | corrupt _ | parsed _ | aliased .. => False

instance Event.decidableGenerates (i : Identity) : DecidablePred (Event.Generates i)
  | generated library _ => inferInstanceAs (Decidable (library.identity = i))
  | corrupt _ | parsed _ | aliased .. => inferInstanceAs (Decidable False)

/-- The name that an event commits a module under. -/
def Event.target? : Event → Option ModuleName
  | generated library _ => some library.identity.wrapperName
  | aliased _ name => some name
  | corrupt _ | parsed _ => none

/-- The event reads the items of a library, and they can be read. -/
def Event.isParse : Event → Bool
  | parsed _ => true
  | corrupt _ | generated .. | aliased .. => false

/-- The event generates a wrapper. -/
def Event.isGeneration : Event → Bool
  | generated .. => true
  | corrupt _ | parsed _ | aliased .. => false

/-- The event generates a friendly module. -/
def Event.isAlias : Event → Bool
  | aliased .. => true
  | corrupt _ | parsed _ | generated .. => false

theorem Event.Generates.isWorkOn {i : Identity} {event : Event} (h : event.Generates i) :
    event.IsWorkOn i := by
  cases event with
  | generated library items => exact h
  | corrupt library => exact False.elim h
  | parsed library => exact False.elim h
  | aliased library name => exact False.elim h

theorem Event.IsWorkOn.unique {i j : Identity} {event : Event} (hi : event.IsWorkOn i)
    (hj : event.IsWorkOn j) : i = j := by
  cases event with
  | generated library items => exact hi.symm.trans hj
  | corrupt library => exact hi.symm.trans hj
  | parsed library => exact hi.symm.trans hj
  | aliased library name => exact False.elim hi

/-- The text of the wrapper of a located library with the given items. -/
def Environment.wrapperText (env : Environment σ) (located : Located) (items : Items) : String :=
  (Wrapper.ofItems located.library.identity items env.known located.source).text

namespace Generator

/-! ## Looking a module up -/

section Lookup

variable {store : Store σ} {name : ModuleName} {accept : Module → Bool} {g : Generator σ}

theorem lookup_resident (accept : Module → Bool) {m : Module}
    (hfound : g.resident.get? name = some m) (haccept : accept m) :
    g.lookup store name accept = (some m, g.countResident) := by
  have hresident : g.residentModule? name accept = some m := by
    simp only [residentModule?, hfound, Option.filter_some, haccept, if_true]
  simp [lookup, hresident]

theorem lookup_stored {m : Module} (hstale : ∀ r, g.resident.get? name = some r → ¬accept r)
    (hfound : store.load g.world name = .hit m) (haccept : accept m) :
    g.lookup store name accept = (some m, g.countStored.keep m) := by
  have hresident : g.residentModule? name accept = none := by
    simpa [residentModule?, Option.filter_eq_none_iff] using hstale
  simp [lookup, hresident, storedModule?, hfound, haccept]

theorem lookup_missing (hstale : ∀ r, g.resident.get? name = some r → ¬accept r)
    (habsent : ∀ m, store.load g.world name = .hit m → ¬accept m) :
    g.lookup store name accept = (none, g) := by
  have hresident : g.residentModule? name accept = none := by
    simpa [residentModule?, Option.filter_eq_none_iff] using hstale
  have hstored : storedModule? store g name accept = none := by
    unfold storedModule?
    split
    · rename_i m hfound
      simpa using habsent m hfound
    · rfl
  simp [lookup, hresident, hstored]

/-- A module is found among the resident ones, or else in the store, or not at all. -/
theorem lookup_cases (store : Store σ) (name : ModuleName) (accept : Module → Bool)
    (g : Generator σ) :
    (∃ m, g.resident.get? name = some m ∧ accept m) ∨
    ((∀ r, g.resident.get? name = some r → ¬accept r) ∧
      ∃ m, store.load g.world name = .hit m ∧ accept m) ∨
    ((∀ r, g.resident.get? name = some r → ¬accept r) ∧
      ∀ m, store.load g.world name = .hit m → ¬accept m) := by
  by_cases hresident : ∃ m, g.resident.get? name = some m ∧ accept m
  · exact .inl hresident
  · have hstale : ∀ r, g.resident.get? name = some r → ¬accept r :=
      fun r hr haccept => hresident ⟨r, hr, haccept⟩
    by_cases hstored : ∃ m, store.load g.world name = .hit m ∧ accept m
    · exact .inr (.inl ⟨hstale, hstored⟩)
    · exact .inr (.inr ⟨hstale, fun m hm haccept => hstored ⟨m, hm, haccept⟩⟩)

end Lookup

/-! ## Committing a module -/

section Commit

variable {store : Store σ} {name : ModuleName} {text : String} {g : Generator σ} {world : σ}

theorem commit_refused {e : StoreError}
    (h : store.commit g.world name text = (.error e, world)) :
    g.commit store name text = (.error (.persistence e), { g with world }) := by
  simp only [commit, h]

theorem commit_done {m : Module} (h : store.commit g.world name text = (.ok m, world)) :
    g.commit store name text = (.ok m, { g with world }.keep m) := by
  simp only [commit, h]

end Commit

/-! ## The wrapper -/

/-- The events of looking for a wrapper. -/
def wrapperEvents (env : Environment σ) (store : Store σ) (located : Located)
    (g : Generator σ) : List Event :=
  match (g.lookup store located.library.identity.wrapperName fun _ => true).1,
    env.items located.library with
  | some _, _ => []
  | none, .error _ => [.corrupt located.library]
  | none, .ok items =>
    match (g.ensureWrapper env store located).1 with
    | .error _ => [.parsed located.library]
    | .ok _ => [.parsed located.library, .generated located.library items]

/-- The ways a wrapper is come by, or not. -/
inductive WrapperStep (env : Environment σ) (store : Store σ) (located : Located)
    (g : Generator σ) :
    List Event → Except RequestError (Module × List Identity) × Generator σ → Prop
  | resident {m : Module}
      (hfound : g.resident.get? located.library.identity.wrapperName = some m) :
      WrapperStep env store located g [] (.ok (m, []), g.countResident)
  | stored {m : Module}
      (hnew : g.resident.get? located.library.identity.wrapperName = none)
      (hfound : store.load g.world located.library.identity.wrapperName = .hit m) :
      WrapperStep env store located g [] (.ok (m, []), g.countStored.keep m)
  | corrupt {e : CorruptDescriptor}
      (hnew : g.resident.get? located.library.identity.wrapperName = none)
      (habsent : ∀ m, store.load g.world located.library.identity.wrapperName ≠ .hit m)
      (hread : env.items located.library = .error e) :
      WrapperStep env store located g [.corrupt located.library] (.error (.corrupt e), g)
  | refused {items : Items} {e : StoreError} {world : σ}
      (hnew : g.resident.get? located.library.identity.wrapperName = none)
      (habsent : ∀ m, store.load g.world located.library.identity.wrapperName ≠ .hit m)
      (hread : env.items located.library = .ok items)
      (hcommit : store.commit g.world located.library.identity.wrapperName
        (env.wrapperText located items) = (.error e, world)) :
      WrapperStep env store located g [.parsed located.library]
        (.error (.persistence e), { g.countParse with world })
  | generated {items : Items} {m : Module} {world : σ}
      (hnew : g.resident.get? located.library.identity.wrapperName = none)
      (habsent : ∀ m, store.load g.world located.library.identity.wrapperName ≠ .hit m)
      (hread : env.items located.library = .ok items)
      (hcommit : store.commit g.world located.library.identity.wrapperName
        (env.wrapperText located items) = (.ok m, world)) :
      WrapperStep env store located g
        [.parsed located.library, .generated located.library items]
        (.ok (m, items.externals located.library.identity),
          ({ g.countParse with world }.keep m).countWrapper)

theorem ensureWrapper_step (env : Environment σ) (store : Store σ) (located : Located)
    (g : Generator σ) :
    WrapperStep env store located g (g.wrapperEvents env store located)
      (g.ensureWrapper env store located) := by
  unfold wrapperEvents ensureWrapper
  rcases g.lookup_cases store located.library.identity.wrapperName (fun _ => true) with
    ⟨m, hfound, -⟩ | ⟨hstale, m, hfound, -⟩ | ⟨hstale, habsent⟩
  · simp only [lookup_resident (fun _ => true) hfound rfl]
    exact .resident hfound
  · have hnew := Option.eq_none_iff_forall_not_mem.mpr fun r hr => hstale r hr rfl
    simp only [lookup_stored hstale hfound rfl]
    exact .stored hnew hfound
  · have hnew := Option.eq_none_iff_forall_not_mem.mpr fun r hr => hstale r hr rfl
    have hmiss : ∀ m, store.load g.world located.library.identity.wrapperName ≠ .hit m :=
      fun m hm => habsent m hm rfl
    simp only [lookup_missing hstale habsent]
    cases hread : env.items located.library with
    | error e => exact .corrupt hnew hmiss hread
    | ok items =>
      rcases hcommit : store.commit g.world located.library.identity.wrapperName
        (env.wrapperText located items) with ⟨e | m, world⟩
      · have hrefused := commit_refused (g := g.countParse) hcommit
        unfold Environment.wrapperText at hrefused
        simp only [hrefused]
        exact .refused hnew hmiss hread hcommit
      · have hdone := commit_done (g := g.countParse) hcommit
        unfold Environment.wrapperText at hdone
        simp only [hdone]
        exact .generated hnew hmiss hread hcommit

/-! ## The friendly module -/

/-- The events of looking for a friendly module. -/
def friendlyEvents (store : Store σ) (library : Library) (wrapper : Module)
    (g : Generator σ) : List Event :=
  match library.friendlyName with
  | .ok (some name) =>
    match (g.lookup store name fun m => m.text = friendlyText wrapper.name).1,
      (g.ensureFriendly store library wrapper).1 with
    | none, .ok _ => [.aliased library name]
    | _, _ => []
  | _ => []

/-- The ways a friendly module is come by, or not. -/
inductive FriendlyStep (store : Store σ) (library : Library) (wrapper : Module)
    (g : Generator σ) :
    List Event → Except RequestError (Option Module) × Generator σ → Prop
  | collision {e : NameCollision} (hname : library.friendlyName = .error e) :
      FriendlyStep store library wrapper g [] (.error (.collision e), g)
  | nameless (hname : library.friendlyName = .ok none) :
      FriendlyStep store library wrapper g [] (.ok none, g)
  | resident {name : ModuleName} {m : Module} (hname : library.friendlyName = .ok (some name))
      (hfound : g.resident.get? name = some m) (htext : m.text = friendlyText wrapper.name) :
      FriendlyStep store library wrapper g [] (.ok (some m), g.countResident)
  | stored {name : ModuleName} {m : Module} (hname : library.friendlyName = .ok (some name))
      (hstale : ∀ r, g.resident.get? name = some r → r.text ≠ friendlyText wrapper.name)
      (hfound : store.load g.world name = .hit m) (htext : m.text = friendlyText wrapper.name) :
      FriendlyStep store library wrapper g [] (.ok (some m), g.countStored.keep m)
  | refused {name : ModuleName} {e : StoreError} {world : σ}
      (hname : library.friendlyName = .ok (some name))
      (hstale : ∀ r, g.resident.get? name = some r → r.text ≠ friendlyText wrapper.name)
      (habsent : ∀ m, store.load g.world name = .hit m → m.text ≠ friendlyText wrapper.name)
      (hcommit : store.commit g.world name (friendlyText wrapper.name) = (.error e, world)) :
      FriendlyStep store library wrapper g [] (.error (.persistence e), { g with world })
  | generated {name : ModuleName} {m : Module} {world : σ}
      (hname : library.friendlyName = .ok (some name))
      (hstale : ∀ r, g.resident.get? name = some r → r.text ≠ friendlyText wrapper.name)
      (habsent : ∀ m, store.load g.world name = .hit m → m.text ≠ friendlyText wrapper.name)
      (hcommit : store.commit g.world name (friendlyText wrapper.name) = (.ok m, world)) :
      FriendlyStep store library wrapper g [.aliased library name]
        (.ok (some m), ({ g with world }.keep m).countFriendly)

theorem ensureFriendly_step (store : Store σ) (library : Library) (wrapper : Module)
    (g : Generator σ) :
    FriendlyStep store library wrapper g (g.friendlyEvents store library wrapper)
      (g.ensureFriendly store library wrapper) := by
  unfold friendlyEvents ensureFriendly Environment.friendlyName
  rcases hname : library.friendlyName with e | _ | name
  · exact .collision hname
  · exact .nameless hname
  · dsimp only
    rcases g.lookup_cases store name (fun m => m.text = friendlyText wrapper.name) with
      ⟨m, hfound, htext⟩ | ⟨hstale, m, hfound, htext⟩ | ⟨hstale, habsent⟩
    · rw [lookup_resident (fun m => m.text = friendlyText wrapper.name) hfound htext]
      exact .resident hname hfound (by simpa using htext)
    · rw [lookup_stored hstale hfound htext]
      exact .stored hname (by simpa using hstale) hfound (by simpa using htext)
    · rw [lookup_missing hstale habsent]
      have hother : ∀ r, g.resident.get? name = some r → r.text ≠ friendlyText wrapper.name := by
        simpa using hstale
      have hnone : ∀ m, store.load g.world name = .hit m → m.text ≠ friendlyText wrapper.name := by
        simpa using habsent
      dsimp only
      rcases hcommit : store.commit g.world name (friendlyText wrapper.name) with ⟨e | m, world⟩
      · rw [commit_refused hcommit]
        exact .refused hname hother hnone hcommit
      · rw [commit_done hcommit]
        exact .generated hname hother hnone hcommit

/-! ## Both modules of a library -/

end Generator

/-- What became of a library with a wrapper, given what became of its friendly module. -/
def Outcome.finished (wrapper : Module) (externals : List Identity) :
    Except RequestError (Option Module) → Outcome
  | .error e => .wrapperOnly wrapper externals e
  | .ok friendly => .complete wrapper externals friendly

/-- There is a wrapper, but the commit of the friendly module was refused. -/
def Outcome.IsRefused (outcome : Outcome) : Prop :=
  ∃ wrapper externals e, outcome = .wrapperOnly wrapper externals (.persistence e)

namespace Generator

theorem finish_eq (store : Store σ) (library : Library) (wrapper : Module)
    (externals : List Identity) (g : Generator σ) :
    g.finish store library wrapper externals =
      (.finished wrapper externals (g.ensureFriendly store library wrapper).1,
        (g.ensureFriendly store library wrapper).2) := by
  unfold finish
  rcases g.ensureFriendly store library wrapper with ⟨e | friendly, after⟩ <;> rfl

/-- The events of taking a library up. -/
def takeUpEvents (env : Environment σ) (store : Store σ) (identity : Identity)
    (g : Generator σ) : List Event :=
  match env.locate g.world (.exact identity) none with
  | .error _ => []
  | .ok located =>
    if located.library.identity ≠ identity then []
    else g.wrapperEvents env store located ++
      match g.ensureWrapper env store located with
      | (.error _, _) => []
      | (.ok (wrapper, _), g) => g.friendlyEvents store located.library wrapper

/-- The ways taking a library up can end. -/
inductive TakeUpStep (env : Environment σ) (store : Store σ) (identity : Identity)
    (g : Generator σ) : List Event → Outcome × Generator σ → Prop
  | unlocated {e : RequestError} (hlocate : env.locate g.world (.exact identity) none = .error e) :
      TakeUpStep env store identity g [] (.failed e, g)
  | mismatch {located : Located}
      (hlocate : env.locate g.world (.exact identity) none = .ok located)
      (hother : located.library.identity ≠ identity) :
      TakeUpStep env store identity g []
        (.failed (.mismatch identity located.library.identity), g)
  | failed {located : Located} {events : List Event} {e : RequestError} {after : Generator σ}
      (hlocate : env.locate g.world (.exact identity) none = .ok located)
      (hidentity : located.library.identity = identity)
      (hwrapper : WrapperStep env store located g events (.error e, after)) :
      TakeUpStep env store identity g events (.failed e, after)
  | finished {located : Located} {events more : List Event} {wrapper : Module}
      {externals : List Identity} {between : Generator σ}
      {r : Except RequestError (Option Module) × Generator σ}
      (hlocate : env.locate g.world (.exact identity) none = .ok located)
      (hidentity : located.library.identity = identity)
      (hwrapper : WrapperStep env store located g events (.ok (wrapper, externals), between))
      (hfriendly : FriendlyStep store located.library wrapper between more r) :
      TakeUpStep env store identity g (events ++ more) (.finished wrapper externals r.1, r.2)

theorem takeUp_step (env : Environment σ) (store : Store σ) (identity : Identity)
    (g : Generator σ) :
    TakeUpStep env store identity g (g.takeUpEvents env store identity)
      (g.takeUp env store identity) := by
  unfold takeUpEvents takeUp
  rcases hlocate : env.locate g.world (.exact identity) none with e | located
  · exact .unlocated hlocate
  · dsimp only
    by_cases hidentity : located.library.identity = identity
    · rw [if_neg (not_not_intro hidentity), if_neg (not_not_intro hidentity)]
      have hwrapper := g.ensureWrapper_step env store located
      rcases hr : g.ensureWrapper env store located with ⟨e | ⟨wrapper, externals⟩, after⟩
      · rw [hr] at hwrapper
        simpa using TakeUpStep.failed hlocate hidentity hwrapper
      · rw [hr] at hwrapper
        dsimp only
        rw [finish_eq]
        exact .finished hlocate hidentity hwrapper (after.ensureFriendly_step _ _ _)
    · rw [if_pos hidentity, if_pos hidentity]
      exact .mismatch hlocate hidentity

end Generator

end Typelib
