import Mathlib.Logic.Function.Basic
import Typelib.Proofs.Generator.Agreement
import Typelib.Proofs.Generator.Closure
import Typelib.Proofs.Generator.Repeat

/-!
# Starting with a store that is broken

As long as no wrapper is stored that is not resident, what a request makes of the resident modules
is a matter of the libraries only.  `LibraryGraph.wrapper`, `LibraryGraph.finish` and
`LibraryGraph.takeUp` say what becomes of their texts in each step, and a generator whose resident
modules have given texts (`Tracks`) goes the same way, whatever is stored under friendly names: a
text that is not the right one is not accepted, and one that is right is the one that would be
generated.  So two generators that start alike stay alike through a request (`request_alike`).

In particular a store with nothing usable under the names of wrappers serves a generator that has
done nothing as well as an empty one (`healed`).
-/

namespace Typelib

universe u v

variable {σ : Type u} {τ : Type v}

/-! ## Graphs of libraries -/

/-- The library that is asked for, the libraries that identities lead to, the items that can be
read of a library, and the known symbols. -/
structure LibraryGraph where
  root : Except RequestError Located
  exact : Identity → Except RequestError Located
  items : Library → Except CorruptDescriptor Items
  known : Symbols

namespace LibraryGraph

/-- A library that is asked for or that an identity leads to. -/
def Finds (graph : LibraryGraph) (located : Located) : Prop :=
  graph.root = .ok located ∨ ∃ i, graph.exact i = .ok located

/-- In a set of worlds libraries are located and read as in a graph, and a store keeps their modules
and carries out the commits of them. -/
structure IsHosted (graph : LibraryGraph) (env : Environment σ) (store : Store σ)
    (worlds : σ → Prop) (designator : Designator) (base : Option Path) : Prop where
  root : ∀ {world}, worlds world → env.locate world designator base = graph.root
  exact : ∀ {world i}, worlds world → env.locate world (.exact i) none = graph.exact i
  items : env.items = graph.items
  known : env.known = graph.known
  retentive : store.Retentive worlds
  serves : ∀ {located}, graph.Finds located → store.Serves worlds located.library

variable (graph : LibraryGraph)

/-- What becomes of the texts of the resident modules when a wrapper is looked for, and the name and
the text of the wrapper with the libraries it hands on, if it is come by. -/
def wrapper (located : Located) (texts : ModuleName → Option String) :
    Except RequestError ((ModuleName × String) × List Identity) × (ModuleName → Option String) :=
  let name := located.library.identity.wrapperName
  match texts name, graph.items located.library with
  | some text, _ => (.ok ((name, text), []), texts)
  | none, .error e => (.error (.corrupt e), texts)
  | none, .ok items =>
    let text := (Wrapper.ofItems located.library.identity items graph.known located.source).text
    (.ok ((name, text), items.externals located.library.identity),
      Function.update texts name (some text))

/-- What becomes of the texts of the resident modules when a friendly module is looked for, and
which libraries are handed on. -/
def finish (library : Library) (externals : List Identity) (texts : ModuleName → Option String) :
    List Identity × (ModuleName → Option String) :=
  match View.friendlyContent library with
  | .error _ => ([], texts)
  | .ok none => (externals, texts)
  | .ok (some (name, text)) => (externals, Function.update texts name (some text))

/-- What becomes of the texts of the resident modules when a library is taken up, and which
libraries it hands on. -/
def takeUp (i : Identity) (texts : ModuleName → Option String) :
    List Identity × (ModuleName → Option String) :=
  match graph.exact i with
  | .error _ => ([], texts)
  | .ok located =>
    if located.library.identity ≠ i then ([], texts)
    else match graph.wrapper located texts with
      | (.error _, texts) => ([], texts)
      | (.ok (_, externals), texts) => finish located.library externals texts

section Equations

variable {graph} {located : Located} {texts : ModuleName → Option String}

theorem wrapper_of_some {text : String}
    (h : texts located.library.identity.wrapperName = some text) :
    graph.wrapper located texts =
      (.ok ((located.library.identity.wrapperName, text), []), texts) := by
  simp only [wrapper, h]

theorem wrapper_of_error {e : CorruptDescriptor}
    (h : texts located.library.identity.wrapperName = none)
    (hread : graph.items located.library = .error e) :
    graph.wrapper located texts = (.error (.corrupt e), texts) := by
  simp only [wrapper, h, hread]

theorem wrapper_of_ok {items : Items} (h : texts located.library.identity.wrapperName = none)
    (hread : graph.items located.library = .ok items) :
    graph.wrapper located texts =
      let text := (Wrapper.ofItems located.library.identity items graph.known located.source).text
      (.ok ((located.library.identity.wrapperName, text),
          items.externals located.library.identity),
        Function.update texts located.library.identity.wrapperName (some text)) := by
  simp only [wrapper, h, hread]

end Equations

end LibraryGraph

namespace Generator

/-! ## Texts of resident modules -/

/-- The resident modules have the given texts and go by their own names, and every stored wrapper
is resident. -/
structure Tracks (store : Store σ) (worlds : σ → Prop) (texts : ModuleName → Option String)
    (g : Generator σ) : Prop where
  settled : Settled store worlds g
  own : g.OwnNames
  text_eq : ∀ name, (g.resident.get? name).map Module.text = texts name

section Tracks

variable {graph : LibraryGraph} {env : Environment σ} {store : Store σ} {worlds : σ → Prop}
  {designator : Designator} {base : Option Path} {located : Located} {library : Library}
  {wrapper : Module} {events : List Event} {texts : ModuleName → Option String} {g : Generator σ}

theorem Tracks.eq_none {name : ModuleName} (hg : Tracks store worlds texts g)
    (h : g.resident.get? name = none) : texts name = none := by
  rw [← hg.text_eq, h]
  rfl

theorem Tracks.eq_some {name : ModuleName} {m : Module} (hg : Tracks store worlds texts g)
    (h : g.resident.get? name = some m) : texts name = some m.text := by
  rw [← hg.text_eq, h]
  rfl

theorem Tracks.content_eq (hg : Tracks store worlds texts g) (name : ModuleName) :
    (g.resident.get? name).map Module.content = (texts name).map fun text => (name, text) := by
  rw [← hg.text_eq]
  rcases hm : g.resident.get? name with _ | m
  · rfl
  · rw [Option.map_some, Option.map_some, Option.map_some, Module.content, hg.own name m hm]

theorem texts_keep {name other : ModuleName} {m : Module} {text : String} (hname : m.name = name)
    (htext : m.text = text) (hg : ∀ name, (g.resident.get? name).map Module.text = texts name) :
    ((g.keep m).resident.get? other).map Module.text =
      Function.update texts name (some text) other := by
  rw [resident_keep, hname, Function.update_apply]
  split
  · rw [Option.map_some, htext]
  · exact hg other

/-- The wrapper is come by as the graph has it. -/
theorem WrapperStep.tracks {r : Except RequestError (Module × List Identity) × Generator σ}
    (h : WrapperStep env store located g events r)
    (hosted : graph.IsHosted env store worlds designator base) (hfinds : graph.Finds located)
    (hg : Tracks store worlds texts g) :
    r.1.map (fun answer => (answer.1.content, answer.2)) = (graph.wrapper located texts).1 ∧
      Tracks store worlds (graph.wrapper located texts).2 r.2 := by
  have hserves := hosted.serves hfinds
  have hstep := h
  cases h with
  | resident hfound =>
    rw [LibraryGraph.wrapper_of_some (hg.eq_some hfound)]
    refine ⟨?_, hstep.settled hserves.lawful hg.settled, hg.own, hg.text_eq⟩
    simp only [Except.map, Module.content, hg.own _ _ hfound]
  | stored hnew hfound =>
    obtain ⟨m, hm⟩ := hg.settled.stored hfound
    rw [hnew] at hm
    cases hm
  | corrupt hnew habsent hread =>
    rw [hosted.items] at hread
    rw [LibraryGraph.wrapper_of_error (hg.eq_none hnew) hread]
    exact ⟨rfl, hg⟩
  | @refused items e world hnew habsent hread hcommit =>
    obtain ⟨m, after, hdone⟩ :=
      hserves.wrapper g.world hg.settled.world (env.wrapperText located items)
    rw [hdone] at hcommit
    cases hcommit
  | @generated items m world hnew habsent hread hcommit =>
    have hname := hserves.lawful.named.commit_name hcommit
    have htext : m.text =
        (Wrapper.ofItems located.library.identity items graph.known located.source).text := by
      rw [hserves.faithful.text_eq hg.settled.world
        located.library.identity.wrapperName_isIdentifier hcommit, Environment.wrapperText,
        hosted.known]
    rw [hosted.items] at hread
    rw [LibraryGraph.wrapper_of_ok (hg.eq_none hnew) hread]
    refine ⟨?_, hstep.settled hserves.lawful hg.settled, hstep.moves.ownNames hg.own,
      fun _ => texts_keep hname htext hg.text_eq⟩
    simp only [Except.map, Module.content, hname, htext]

/-- Whatever is there under its name, the friendly module that is come by is the right one. -/
theorem FriendlyStep.tracks {r : Except RequestError (Option Module) × Generator σ}
    (h : FriendlyStep store library wrapper g events r) (hserves : store.Serves worlds library)
    (hwrapper : wrapper.name = library.identity.wrapperName) (externals : List Identity)
    (hg : Tracks store worlds texts g) :
    (Outcome.finished wrapper externals r.1).found =
        (LibraryGraph.finish library externals texts).1 ∧
      Tracks store worlds (LibraryGraph.finish library externals texts).2 r.2 := by
  have hsettled := h.settled hserves.lawful hg.settled
  have hown := h.moves.ownNames hg.own
  have hfinish {name : ModuleName} (hname : library.friendlyName = .ok (some name)) :
      LibraryGraph.finish library externals texts =
        (externals, Function.update texts name (some (friendlyText wrapper.name))) := by
    simp only [LibraryGraph.finish, View.friendlyContent_of_name hname, hwrapper]
  cases h with
  | collision hname =>
    simp only [LibraryGraph.finish, View.friendlyContent, Environment.friendlyName, hname,
      Except.map]
    exact ⟨rfl, hg⟩
  | nameless hname =>
    simp only [LibraryGraph.finish, View.friendlyContent, Environment.friendlyName, hname,
      Except.map, Option.map_none]
    exact ⟨rfl, hg⟩
  | resident hname hfound htext =>
    rw [hfinish hname, ← htext, ← hg.eq_some hfound, Function.update_eq_self]
    exact ⟨rfl, hsettled, hown, hg.text_eq⟩
  | stored hname hstale hfound htext =>
    rw [hfinish hname]
    exact ⟨rfl, hsettled, hown,
      fun _ => texts_keep (hserves.lawful.named.load_name hfound) htext hg.text_eq⟩
  | refused hname hstale habsent hcommit =>
    obtain ⟨m, after, hdone⟩ :=
      hserves.friendly hname g.world hg.settled.world (friendlyText wrapper.name)
    rw [hdone] at hcommit
    cases hcommit
  | generated hname hstale habsent hcommit =>
    have htext :=
      hserves.faithful.text_eq hg.settled.world (friendlyName_isIdentifier hname) hcommit
    rw [hfinish hname]
    exact ⟨rfl, hsettled, hown,
      fun _ => texts_keep (hserves.lawful.named.commit_name hcommit) htext hg.text_eq⟩

theorem finish_tracks (hserves : store.Serves worlds library)
    (hwrapper : wrapper.name = library.identity.wrapperName) (externals : List Identity)
    (hg : Tracks store worlds texts g) :
    (g.finish store library wrapper externals).1.answer.map Module.content =
        (View.friendlyContent library).map (fun friendly => friendly.getD wrapper.content) ∧
      Tracks store worlds (LibraryGraph.finish library externals texts).2
        (g.finish store library wrapper externals).2 := by
  have hstep := g.ensureFriendly_step store library wrapper
  rw [finish_eq]
  exact ⟨(hstep.answer hserves hg.settled.world hg.own hwrapper externals).1,
    (hstep.tracks hserves hwrapper externals hg).2⟩

/-- A library is taken up as the graph has it. -/
theorem TakeUpStep.tracks {i : Identity} {r : Outcome × Generator σ}
    (h : TakeUpStep env store i g events r)
    (hosted : graph.IsHosted env store worlds designator base) (hg : Tracks store worlds texts g) :
    r.1.found = (graph.takeUp i texts).1 ∧ Tracks store worlds (graph.takeUp i texts).2 r.2 := by
  cases h with
  | unlocated hlocate =>
    rw [hosted.exact hg.settled.world] at hlocate
    simp only [LibraryGraph.takeUp, hlocate]
    exact ⟨rfl, hg⟩
  | mismatch hlocate hother =>
    rw [hosted.exact hg.settled.world] at hlocate
    simp only [LibraryGraph.takeUp, hlocate, if_pos hother]
    exact ⟨rfl, hg⟩
  | @failed located events e after hlocate hidentity hwrapper =>
    rw [hosted.exact hg.settled.world] at hlocate
    obtain ⟨hanswer, hafter⟩ := hwrapper.tracks hosted (.inr ⟨i, hlocate⟩) hg
    simp only [LibraryGraph.takeUp, hlocate, hidentity, ne_eq, not_true_eq_false, if_false]
    rcases hgraph : graph.wrapper located texts with ⟨_ | _, later⟩
    · rw [hgraph] at hafter
      exact ⟨rfl, hafter⟩
    · rw [hgraph] at hanswer
      cases hanswer
  | @finished located _ _ wrapper externals between r hlocate hidentity hwrapper hfriendly =>
    rw [hosted.exact hg.settled.world] at hlocate
    have hfinds : graph.Finds located := .inr ⟨i, hlocate⟩
    have hserves := hosted.serves hfinds
    have hname := (hwrapper.found hserves.lawful.named hg.own).2
    obtain ⟨hanswer, hbetween⟩ := hwrapper.tracks hosted hfinds hg
    simp only [LibraryGraph.takeUp, hlocate, hidentity, ne_eq, not_true_eq_false, if_false]
    rcases hgraph : graph.wrapper located texts with ⟨_ | ⟨text, handed⟩, later⟩
    · rw [hgraph] at hanswer
      cases hanswer
    · rw [hgraph] at hanswer hbetween
      obtain rfl : externals = handed := congrArg Prod.snd (Except.ok.inj hanswer)
      exact hfriendly.tracks hserves hname externals hbetween

end Tracks

/-! ## Two generators -/

section Alike

variable {graph : LibraryGraph} {env : Environment σ} {env' : Environment τ} {store : Store σ}
  {store' : Store τ} {worlds : σ → Prop} {worlds' : τ → Prop} {designator : Designator}
  {base : Option Path} {g : Generator σ} {h : Generator τ}

/-- Two chases go the same way if taking up a library hands on the same in both and leaves them
alike. -/
theorem chase_related {related : Generator σ → Generator τ → Prop}
    (hstep : ∀ {g h} i, related g h →
      (g.takeUp env store i).1.found = (h.takeUp env' store' i).1.found ∧
        related (g.takeUp env store i).2 (h.takeUp env' store' i).2)
    (visited : List Identity) (distinct : visited.Nodup) (pending : List Identity)
    (hrelated : related g h) :
    related (g.chase env store visited distinct pending).2
      (h.chase env' store' visited distinct pending).2 := by
  fun_induction chase env store visited distinct pending g generalizing h with
  | case1 =>
    rw [chase]
    exact hrelated
  | case2 visited distinct g identity rest hseen ih =>
    rw [chase, dif_pos hseen]
    exact ih hrelated
  | case3 visited distinct g identity rest hnew outcome next htake visits after hchase ih =>
    rw [chase, dif_neg hnew]
    obtain ⟨hfound, hnext⟩ := hstep identity hrelated
    rw [htake] at hfound hnext
    have hafter := ih hnext
    rw [hchase, hfound] at hafter
    exact hafter

/-- The resident modules of two generators have the same names and texts, and every stored wrapper
is resident. -/
def Alike (store : Store σ) (store' : Store τ) (worlds : σ → Prop) (worlds' : τ → Prop)
    (g : Generator σ) (h : Generator τ) : Prop :=
  ∃ texts, Tracks store worlds texts g ∧ Tracks store' worlds' texts h

section Hosted

variable (hosted : graph.IsHosted env store worlds designator base)
  (hosted' : graph.IsHosted env' store' worlds' designator base)
  (halike : Alike store store' worlds worlds' g h)

include hosted hosted' halike

theorem takeUp_alike (i : Identity) :
    (g.takeUp env store i).1.found = (h.takeUp env' store' i).1.found ∧
      Alike store store' worlds worlds' (g.takeUp env store i).2 (h.takeUp env' store' i).2 := by
  obtain ⟨texts, hg, hh⟩ := halike
  obtain ⟨hfound, hafter⟩ := (takeUp_step env store i g).tracks hosted hg
  obtain ⟨hfound', hafter'⟩ := (takeUp_step env' store' i h).tracks hosted' hh
  exact ⟨hfound.trans hfound'.symm, _, hafter, hafter'⟩

theorem chase_alike (visited : List Identity) (distinct : visited.Nodup)
    (pending : List Identity) :
    Alike store store' worlds worlds' (g.chase env store visited distinct pending).2
      (h.chase env' store' visited distinct pending).2 :=
  chase_related (fun i hrelated => takeUp_alike hosted hosted' hrelated i) visited distinct pending
    halike

/-- The wrappers of a library are come by alike or not at all. -/
theorem ensureWrapper_alike {located : Located} (hfinds : graph.Finds located) :
    (g.ensureWrapper env store located).1.map (fun answer => (answer.1.content, answer.2)) =
        (h.ensureWrapper env' store' located).1.map (fun answer => (answer.1.content, answer.2)) ∧
      Alike store store' worlds worlds' (g.ensureWrapper env store located).2
        (h.ensureWrapper env' store' located).2 := by
  obtain ⟨texts, hg, hh⟩ := halike
  obtain ⟨hanswer, hafter⟩ := (g.ensureWrapper_step env store located).tracks hosted hfinds hg
  obtain ⟨hanswer', hafter'⟩ := (h.ensureWrapper_step env' store' located).tracks hosted' hfinds hh
  exact ⟨hanswer.trans hanswer'.symm, _, hafter, hafter'⟩

theorem finish_alike {located : Located} {wrapper wrapper' : Module} (hfinds : graph.Finds located)
    (hname : wrapper.name = located.library.identity.wrapperName)
    (hsame : wrapper.content = wrapper'.content) (externals : List Identity) :
    (g.finish store located.library wrapper externals).1.answer.map Module.content =
        (h.finish store' located.library wrapper' externals).1.answer.map Module.content ∧
      Alike store store' worlds worlds' (g.finish store located.library wrapper externals).2
        (h.finish store' located.library wrapper' externals).2 := by
  obtain ⟨texts, hg, hh⟩ := halike
  have hname' : wrapper'.name = located.library.identity.wrapperName :=
    (congrArg Prod.fst hsame).symm.trans hname
  obtain ⟨hanswer, hafter⟩ := finish_tracks (hosted.serves hfinds) hname externals hg
  obtain ⟨hanswer', hafter'⟩ := finish_tracks (hosted'.serves hfinds) hname' externals hh
  rw [hsame] at hanswer
  exact ⟨hanswer.trans hanswer'.symm, _, hafter, hafter'⟩

end Hosted

/-- Two requests for one library to generators that are alike once their stores are open get the
same answer up to the backing of the module or fail for the same reason, and leave the generators
alike. -/
theorem request_alike
    (hosted : graph.IsHosted env (g.openStore env).1 worlds designator base)
    (hosted' : graph.IsHosted env' (h.openStore env').1 worlds' designator base)
    (halike : Alike (g.openStore env).1 (h.openStore env').1 worlds worlds' (g.openStore env).2
      (h.openStore env').2) :
    (g.request env designator base).1.map Module.content =
        (h.request env' designator base).1.map Module.content ∧
      Alike (g.openStore env).1 (h.openStore env').1 worlds worlds'
        (g.request env designator base).2 (h.request env' designator base).2 := by
  unfold request serve
  rcases hopen : g.openStore env with ⟨store, g⟩
  rcases hopen' : h.openStore env' with ⟨store', h⟩
  rw [hopen] at hosted halike
  rw [hopen'] at hosted' halike
  dsimp only at hosted hosted' halike ⊢
  obtain ⟨texts, hg, hh⟩ := halike
  rw [hosted.root hg.settled.world, hosted'.root hh.settled.world]
  rcases hroot : graph.root with e | located
  · exact ⟨rfl, texts, hg, hh⟩
  · have hfinds : graph.Finds located := .inl hroot
    have hstep := g.ensureWrapper_step env store located
    obtain ⟨hwrapper, hbetween⟩ := ensureWrapper_alike hosted hosted' ⟨texts, hg, hh⟩ hfinds
    dsimp only
    rcases hr : g.ensureWrapper env store located with ⟨answer, between⟩
    rcases hr' : h.ensureWrapper env' store' located with ⟨answer', between'⟩
    rw [hr] at hstep hwrapper hbetween
    rw [hr'] at hwrapper hbetween
    rcases answer with e | ⟨wrapper, externals⟩ <;>
      rcases answer' with e' | ⟨wrapper', externals'⟩
    · obtain rfl : e = e' := Except.error.inj hwrapper
      exact ⟨rfl, hbetween⟩
    · cases hwrapper
    · cases hwrapper
    · obtain ⟨hcontent, rfl⟩ := Prod.mk.inj (Except.ok.inj hwrapper)
      have hname := (hstep.found hosted.retentive.named hg.own).2
      have hchased := chase_alike hosted hosted' hbetween [located.library.identity]
        (List.nodup_singleton _) externals
      exact finish_alike hosted hosted' hchased hfinds hname hcontent externals

/-- A generator that has done nothing tracks no texts if no wrapper is stored once its store is
open. -/
theorem tracks_start {world : σ} {destination : Destination σ}
    (hworld : worlds ((start world destination).openStore env).2.world)
    (hnone : ((start world destination).openStore env).1.HoldsNoWrapper
      ((start world destination).openStore env).2.world) :
    Tracks ((start world destination).openStore env).1 worlds (fun _ => none)
      ((start world destination).openStore env).2 where
  settled := ⟨hworld, fun hm => absurd hm (hnone _ _)⟩
  own := by
    have hown : (start world destination).OwnNames := nofun
    exact hown.openStore env
  text_eq name := by
    rw [openStore_resident]
    rfl

/-- With nothing usable in the store under the names of wrappers, and with anything under other
names, a generator that has done nothing answers a request as with any other such store, above all
an empty one: the answers are the same up to the backing of the module or fail for the same reason,
the same modules become resident, up to their backing, and each of them is then found in the
store. -/
theorem healed {world : σ} {world' : τ} {destination : Destination σ} {destination' : Destination τ}
    (hosted : graph.IsHosted env ((start world destination).openStore env).1 worlds designator base)
    (hosted' : graph.IsHosted env' ((start world' destination').openStore env').1 worlds' designator
      base)
    (hworld : worlds ((start world destination).openStore env).2.world)
    (hworld' : worlds' ((start world' destination').openStore env').2.world)
    (hbroken : ((start world destination).openStore env).1.HoldsNoWrapper
      ((start world destination).openStore env).2.world)
    (hfresh : ((start world' destination').openStore env').1.HoldsNoWrapper
      ((start world' destination').openStore env').2.world) :
    let broken := (start world destination).request env designator base
    let fresh := (start world' destination').request env' designator base
    broken.1.map Module.content = fresh.1.map Module.content ∧
      (∀ name, (broken.2.resident.get? name).map Module.content =
        (fresh.2.resident.get? name).map Module.content) ∧
      ∀ name m, broken.2.resident.get? name = some m →
        ((start world destination).openStore env).1.load broken.2.world name = .hit m := by
  intro broken fresh
  obtain ⟨hanswer, texts, hg, hh⟩ := request_alike hosted hosted'
    ⟨_, tracks_start hworld hbroken, tracks_start hworld' hfresh⟩
  have hagrees : Agrees ((start world destination).openStore env).1 worlds broken.2 := by
    refine request_agrees designator base hosted.retentive rfl ?_
    refine ⟨hworld, fun hm => ?_, fun hm => ?_⟩ <;>
      · rw [openStore_resident] at hm
        cases hm
  exact ⟨hanswer, fun name => (hg.content_eq name).trans (hh.content_eq name).symm,
    fun name m hm => hagrees.stored hm⟩

end Alike

end Generator

/-! ## Libraries on a shelf -/

namespace Shelf

open Generator

/-- The graph of the libraries on a shelf. -/
def graph (libraries : List Descriptor) (designator : Designator) (base : Option Path) :
    LibraryGraph :=
  { root := environment.locate ⟨libraries, .empty⟩ designator base
    exact := fun i => environment.locate ⟨libraries, .empty⟩ (.exact i) none
    items := environment.items
    known := environment.known }

theorem store_retentive (libraries : List Descriptor) :
    store.Retentive fun w => w.libraries = libraries :=
  Store.memory_retentive.within (fun _ => trivial) (fun hw _ => hw) fun _ => rfl

/-- Modules on the shelf do not matter when a library is located. -/
theorem locate_libraries (w : Shelf) (designator : Designator) (base : Option Path) :
    environment.locate w designator base =
      environment.locate ⟨w.libraries, .empty⟩ designator base :=
  rfl

theorem graph_isHosted (libraries : List Descriptor) (designator : Designator)
    (base : Option Path) : (graph libraries designator base).IsHosted environment store
      (fun w => w.libraries = libraries) designator base where
  root := by
    rintro w rfl
    exact locate_libraries w designator base
  exact := by
    rintro w i rfl
    exact locate_libraries w (.exact i) none
  items := rfl
  known := rfl
  retentive := store_retentive libraries
  serves _ :=
    { lawful := store_lawful libraries
      faithful := store_faithful libraries
      wrapper := store_commits libraries (Identity.wrapperName_isIdentifier _)
      friendly := fun hname => store_commits libraries (friendlyName_isIdentifier hname) }

theorem store_load (libraries : List Descriptor) (modules : SealedTable) (name : ModuleName) :
    store.load ⟨libraries, modules⟩ name = modules.lookup name :=
  rfl

section Misplaced

/-- Something else under the name of a wrapper, and under another name the friendly module of
another wrapper. -/
def misplaced (a b : Identity) (shared : ModuleName) : SealedTable :=
  (Table.empty.insert a.wrapperName "fn main() {}").insert shared
    (sealText shared (friendlyText b.wrapperName))

variable (libraries : List Descriptor) (a b : Identity) {shared : ModuleName}
  (hshared : ∀ i : Identity, i.wrapperName ≠ shared)

theorem misplaced_get? (name : ModuleName) : (misplaced a b shared).get? name =
    if name = shared then some (sealText shared (friendlyText b.wrapperName))
    else if name = a.wrapperName then some "fn main() {}" else none := by
  rw [misplaced, Table.get?_insert, Table.get?_insert]
  rfl

theorem load_misplaced_shared (hidentifier : IsIdentifier shared.member) :
    store.load ⟨libraries, misplaced a b shared⟩ shared =
      .hit ⟨shared, friendlyText b.wrapperName, .memory⟩ := by
  rw [store_load]
  exact Store.sealedTable_lookup hidentifier (by rw [misplaced_get?, if_pos rfl])

include hshared

theorem load_misplaced_wrapper : store.load ⟨libraries, misplaced a b shared⟩ a.wrapperName =
    .invalid (.unsealed none .malformedHeader) := by
  have hunsealed : readSealed a.wrapperName "fn main() {}" = .error .malformedHeader := rfl
  rw [store_load]
  refine Store.sealedTable_lookup_unsealed ?_ hunsealed
  rw [misplaced_get?, if_neg (hshared a), if_pos rfl]

theorem holdsNoWrapper_misplaced : store.HoldsNoWrapper ⟨libraries, misplaced a b shared⟩ := by
  intro i m
  by_cases hi : i.wrapperName = a.wrapperName
  · rw [hi, load_misplaced_wrapper libraries a b hshared]
    exact Lookup.noConfusion
  · have hnone : (misplaced a b shared).get? i.wrapperName = none := by
      rw [misplaced_get?, if_neg (hshared i), if_neg hi]
    rw [store_load, Store.sealedTable_lookup_absent hnone]
    exact Lookup.noConfusion

end Misplaced

/-- Two libraries of one name refer to each other.  Something else is stored under the name of one
wrapper, and under the shared name the friendly module of the other library. -/
theorem healed_shared :
    let a : Identity := ⟨⟨10#128⟩, 1, 0, 0⟩
    let b : Identity := ⟨⟨11#128⟩, 1, 0, 0⟩
    let libraries := [referring (some "Shared") a b, referring (some "Shared") b a]
    let shared : ModuleName := ⟨"Shared"⟩
    let modules : SealedTable := (Table.empty.insert a.wrapperName "fn main() {}").insert shared
      (sealText shared (friendlyText b.wrapperName))
    let broken := (start ⟨libraries, modules⟩ (.given store)).request environment (.exact a) none
    store.load ⟨libraries, modules⟩ shared =
      .hit ⟨shared, friendlyText b.wrapperName, .memory⟩ ∧
    store.load ⟨libraries, modules⟩ a.wrapperName ≠ .absent ∧
    ∃ m, broken.1 = .ok m ∧ m.content = (shared, friendlyText a.wrapperName) ∧
      ∀ name m, broken.2.resident.get? name = some m → store.load broken.2.world name = .hit m := by
  intro a b libraries shared modules broken
  have hfriendly : friendlyName (some "Shared") = .ok (some shared) := by decide
  have hshared (i : Identity) : i.wrapperName ≠ shared :=
    (friendlyName_ne_wrapperName hfriendly i).symm
  have hstale : store.load ⟨libraries, modules⟩ shared =
      .hit ⟨shared, friendlyText b.wrapperName, .memory⟩ :=
    load_misplaced_shared libraries a b (friendlyName_isIdentifier hfriendly)
  have hthere : store.load ⟨libraries, modules⟩ a.wrapperName ≠ .absent := by
    have hgarbage : store.load ⟨libraries, modules⟩ a.wrapperName =
        .invalid (.unsealed none .malformedHeader) := load_misplaced_wrapper libraries a b hshared
    rw [hgarbage]
    exact Lookup.noConfusion
  have hhosted := graph_isHosted libraries (.exact a) none
  have hopen (modules : SealedTable) :
      (start ⟨libraries, modules⟩ (.given store)).openStore environment =
        (store, start ⟨libraries, modules⟩ (.given store)) := rfl
  have hhealed := @healed _ _ (graph libraries (.exact a) none) environment environment
    (fun w => w.libraries = libraries) (fun w => w.libraries = libraries) (.exact a) none
    ⟨libraries, modules⟩ ⟨libraries, .empty⟩ (.given store) (.given store)
  have hrequest : (start ⟨libraries, modules⟩ (.given store)).request environment (.exact a) none =
      broken := rfl
  rw [hopen, hopen, hrequest] at hhealed
  obtain ⟨hanswer, -, hstored⟩ := hhealed hhosted hhosted rfl rfl
    (holdsNoWrapper_misplaced libraries a b hshared) (store_holdsNoWrapper libraries)
  -- the answer with an empty store is known
  have hrefers : b ∈ (referring (some "Shared") a b).references := by decide +kernel
  obtain ⟨items, hread, -⟩ := Descriptor.mem_references.mp hrefers
  have hfind : find libraries a = some (referring (some "Shared") a b) := rfl
  obtain ⟨m', hm', hcontent⟩ := answer_fresh hfind hread hfriendly
  have hempty : ((start ⟨libraries, .empty⟩ (.given store)).request environment (.exact a)
      none).1 = .ok m' := hm'
  rw [hempty] at hanswer
  rcases hm : broken.1 with e | m
  · rw [hm] at hanswer
    cases hanswer
  · rw [hm] at hanswer
    exact ⟨hstale, hthere, m, rfl, (Except.ok.inj hanswer).trans hcontent, hstored⟩

end Shelf

end Typelib
