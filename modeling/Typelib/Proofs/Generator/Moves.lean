import Typelib.Proofs.Generator.Visits
import Typelib.Proofs.Store.Laws

/-!
# Moves of a generator

Whatever a request does to a generator is a sequence of small changes: it counts, it makes a
stored module resident, it commits a module and makes that resident, or a commit is refused.
`Move` lists these changes with what is known when they happen, above all that no resident
wrapper goes by the name concerned (`IsFree`) and, for a commit, no stored one (`IsUnstored`).
`serve_moves` says that a request consists of moves.  A property of generators that every move
keeps is therefore kept by every request;
`Moves.resident_wrapper` is the first of them, that a resident wrapper stays as it is.
-/

namespace Typelib

universe u

variable {σ : Type u}

namespace Generator

/-- No resident wrapper goes by a name. -/
def IsFree (g : Generator σ) (name : ModuleName) : Prop :=
  ∀ i : Identity, name = i.wrapperName → g.resident.get? name = none

/-- No stored wrapper goes by a name. -/
def IsUnstored (store : Store σ) (g : Generator σ) (name : ModuleName) : Prop :=
  ∀ i : Identity, name = i.wrapperName → ∀ m, store.load g.world name ≠ .hit m

/-- The small changes that a request consists of. -/
inductive Move (store : Store σ) (g : Generator σ) : Generator σ → Prop
  | count (stats : Stats) : Move store g { g with stats }
  | fetch {name : ModuleName} {m : Module} (hname : IsIdentifier name.member)
      (hfree : g.IsFree name) (hfound : store.load g.world name = .hit m) :
      Move store g (g.keep m)
  | commit {name : ModuleName} {text : String} {m : Module} {world : σ}
      (hname : IsIdentifier name.member) (hfree : g.IsFree name) (hnone : g.IsUnstored store name)
      (hcommit : store.commit g.world name text = (.ok m, world)) :
      Move store g ({ g with world }.keep m)
  | refuse {name : ModuleName} {text : String} {e : StoreError} {world : σ}
      (hname : IsIdentifier name.member) (hfree : g.IsFree name) (hnone : g.IsUnstored store name)
      (hcommit : store.commit g.world name text = (.error e, world)) :
      Move store g { g with world }

/-- Any number of moves, one after the other. -/
def Moves (store : Store σ) : Generator σ → Generator σ → Prop :=
  Relation.ReflTransGen (Move store)

variable {env : Environment σ} {store : Store σ} {located : Located} {library : Library}
  {wrapper : Module} {identity : Identity} {events : List Event} {g : Generator σ}

theorem isFree_wrapperName (h : g.resident.get? identity.wrapperName = none) :
    g.IsFree identity.wrapperName :=
  fun _ _ => h

theorem isFree_friendlyName {name : ModuleName} (h : library.friendlyName = .ok (some name)) :
    g.IsFree name :=
  fun i heq => absurd heq (friendlyName_ne_wrapperName h i)

theorem isUnstored_wrapperName
    (h : ∀ m, store.load g.world identity.wrapperName ≠ .hit m) :
    g.IsUnstored store identity.wrapperName :=
  fun _ _ => h

theorem isUnstored_friendlyName {name : ModuleName} (h : library.friendlyName = .ok (some name)) :
    g.IsUnstored store name :=
  fun i heq => absurd heq (friendlyName_ne_wrapperName h i)

/-! ## The steps of a request are moves -/

theorem WrapperStep.moves {r : Except RequestError (Module × List Identity) × Generator σ}
    (h : WrapperStep env store located g events r) : Moves store g r.2 := by
  have hname := located.library.identity.wrapperName_isIdentifier
  cases h with
  | resident hfound => exact .single (.count _)
  | stored hnew hfound =>
    exact .head (.count _) (.single (.fetch hname (isFree_wrapperName hnew) hfound))
  | corrupt hnew habsent hread => exact .refl
  | refused hnew habsent hread hcommit =>
    exact .head (.count _) (.single (.refuse hname (isFree_wrapperName hnew)
      (isUnstored_wrapperName habsent) hcommit))
  | generated hnew habsent hread hcommit =>
    exact .head (.count _) (.head (.commit hname (isFree_wrapperName hnew)
      (isUnstored_wrapperName habsent) hcommit) (.single (.count _)))

theorem FriendlyStep.moves {r : Except RequestError (Option Module) × Generator σ}
    (h : FriendlyStep store library wrapper g events r) : Moves store g r.2 := by
  cases h with
  | collision hname => exact .refl
  | nameless hname => exact .refl
  | resident hname hfound htext => exact .single (.count _)
  | stored hname hstale hfound htext =>
    exact .head (.count _) (.single (.fetch (friendlyName_isIdentifier hname)
      (isFree_friendlyName hname) hfound))
  | refused hname hstale habsent hcommit =>
    exact .single (.refuse (friendlyName_isIdentifier hname) (isFree_friendlyName hname)
      (isUnstored_friendlyName hname) hcommit)
  | generated hname hstale habsent hcommit =>
    exact .head (.commit (friendlyName_isIdentifier hname) (isFree_friendlyName hname)
      (isUnstored_friendlyName hname) hcommit) (.single (.count _))

theorem TakeUpStep.moves {r : Outcome × Generator σ}
    (h : TakeUpStep env store identity g events r) : Moves store g r.2 := by
  cases h with
  | unlocated hlocate => exact .refl
  | mismatch hlocate hother => exact .refl
  | failed hlocate hidentity hwrapper => exact hwrapper.moves
  | finished hlocate hidentity hwrapper hfriendly =>
    exact hwrapper.moves.trans hfriendly.moves

theorem Taken.moves {visits : List Visit} {after : Generator σ}
    (h : Taken env store g visits after) : Moves store g after := by
  induction h with
  | nil => exact .refl
  | cons h ih => exact (takeUp_step env store _ _).moves.trans ih

theorem ServeStep.moves {designator : Designator} {base : Option Path} {served : Served σ}
    (h : ServeStep env store designator base g events served) :
    Moves store g served.generator := by
  cases h with
  | unlocated hlocate => exact .refl
  | failed hlocate hwrapper => exact hwrapper.moves
  | @finished located _ _ _ externals between _ _ hlocate hwrapper hchase hfriendly =>
    have hvisits := Taken.of_chaseFrom hchase
    exact hwrapper.moves.trans (hvisits.moves.trans hfriendly.moves)

/-- Once its store is open, a request consists of moves. -/
theorem serve_moves (env : Environment σ) (designator : Designator) (base : Option Path)
    (g : Generator σ) :
    Moves (g.openStore env).1 (g.openStore env).2 (g.serve env designator base).generator :=
  (serve_step env designator base g).moves

/-! ## What moves keep -/

theorem resident_keep {m : Module} {name : ModuleName} :
    (g.keep m).resident.get? name = if name = m.name then some m else g.resident.get? name :=
  Table.get?_insert

theorem Move.resident_wrapper {after : Generator σ} (hstore : store.Named)
    (h : Move store g after) {m : Module} (hm : g.resident.get? identity.wrapperName = some m) :
    after.resident.get? identity.wrapperName = some m := by
  -- a module is kept under a free name only, and the wrapper's name is taken
  have hother : ∀ {name}, g.IsFree name → identity.wrapperName ≠ name := by
    rintro name hfree rfl
    rw [hfree identity rfl] at hm
    cases hm
  cases h with
  | count stats => exact hm
  | fetch hname hfree hfound =>
    rw [resident_keep, hstore.load_name hfound, if_neg (hother hfree)]
    exact hm
  | commit hname hfree hnone hcommit =>
    rw [resident_keep, hstore.commit_name hcommit, if_neg (hother hfree)]
    exact hm
  | refuse hname hfree hnone hcommit => exact hm

/-- A resident wrapper stays as it is. -/
theorem Moves.resident_wrapper {after : Generator σ} (hstore : store.Named)
    (h : Moves store g after) {m : Module} (hm : g.resident.get? identity.wrapperName = some m) :
    after.resident.get? identity.wrapperName = some m := by
  induction h with
  | refl => exact hm
  | tail _ hmove ih => exact hmove.resident_wrapper hstore ih

/-- A move changes the world by a commit under a free name, if at all. -/
theorem Move.world_eq {after : Generator σ} (h : Move store g after) :
    after.world = g.world ∨ ∃ name text, IsIdentifier name.member ∧ g.IsFree name ∧
      after.world = (store.commit g.world name text).2 := by
  cases h with
  | count stats => exact .inl rfl
  | fetch hname hfree hfound => exact .inl rfl
  | commit hname hfree hnone hcommit => exact .inr ⟨_, _, hname, hfree, by rw [hcommit]; rfl⟩
  | refuse hname hfree hnone hcommit => exact .inr ⟨_, _, hname, hfree, by rw [hcommit]⟩

/-- Moves stay within a set of worlds if commits do. -/
theorem Moves.worlds_of_keeps {worlds : σ → Prop} {after : Generator σ}
    (hkeeps : ∀ {state name}, worlds state → IsIdentifier name.member → ∀ text,
      worlds (store.commit state name text).2)
    (h : Moves store g after) (hworld : worlds g.world) : worlds after.world := by
  induction h with
  | refl => exact hworld
  | tail _ hmove ih =>
    rcases hmove.world_eq with heq | ⟨name, text, hname, -, heq⟩
    · rw [heq]
      exact ih
    · rw [heq]
      exact hkeeps ih hname text

theorem Moves.worlds {worlds : σ → Prop} {after : Generator σ} (hstore : store.Lawful worlds)
    (h : Moves store g after) (hworld : worlds g.world) : worlds after.world :=
  h.worlds_of_keeps hstore.keeps hworld

theorem Moves.destination {after : Generator σ} (h : Moves store g after) :
    after.destination = g.destination := by
  induction h with
  | refl => rfl
  | tail _ hmove ih => cases hmove <;> exact ih

end Generator

end Typelib
