import Typelib.Generator.Names
import Typelib.Proofs.Generator.Switching

/-!
# The names of a library predict its modules

`Environment.names` reports the names that the modules of a library have or will have; it only looks
at the world and changes nothing.  A request goes other ways, by way of look-ups, commits and a
chase; but whichever way it comes by a module, that has one of these names (`ServeStep.name`).

The names are those that a library has once the store of the request is open.  Opening it may make
a directory, and a path through that directory leads nowhere before.  So the names that are
reported before a request predict it if opening the store does not change them
(`request_named`), as it never does after the first request (`openStore_settled`), but not always
(`names_not_found`).
-/

namespace Typelib

universe u

variable {σ : Type u}

namespace Environment

variable {env : Environment σ} {world : σ} {designator : Designator} {base : Option Path}
  {located : Located}

/-- The names of a library that was located and whose name is in nobody's way. -/
theorem names_of_locate (hlocate : env.locate world designator base = .ok located)
    {friendly : Option ModuleName} (hname : located.library.friendlyName = .ok friendly) :
    env.names world designator base = .ok ⟨located.library.identity, located.library.declaredName,
      located.library.identity.wrapperName, friendly, located.source⟩ := by
  simp only [names, hlocate, Environment.friendlyName, hname]

/-- Without a library there are no names. -/
theorem names_of_error {e : RequestError} (h : env.locate world designator base = .error e) :
    env.names world designator base = .error e := by
  simp only [names, h]

end Environment

namespace Generator

variable {env : Environment σ} {store : Store σ} {located : Located} {library : Library}
  {wrapper m : Module} {externals : List Identity} {events : List Event} {g after : Generator σ}
  {designator : Designator} {base : Option Path}

/-- Whichever way a wrapper is come by, it goes by the name of the wrapper of its library. -/
theorem WrapperStep.name (hnamed : store.Named) (hown : g.OwnNames)
    (h : WrapperStep env store located g events (.ok (wrapper, externals), after)) :
    wrapper.name = located.library.identity.wrapperName := by
  cases h with
  | resident hfound => exact hown _ _ hfound
  | stored hnew hfound => exact hnamed.load_name hfound
  | generated hnew habsent hread hcommit => exact hnamed.commit_name hcommit

/-- Whichever way a friendly module is come by, it goes by the friendly name of its library. -/
theorem FriendlyStep.name (hnamed : store.Named) (hown : g.OwnNames) {friendly : Option Module}
    (h : FriendlyStep store library wrapper g events (.ok friendly, after)) :
    library.friendlyName = .ok (friendly.map Module.name) := by
  cases h with
  | nameless hname => exact hname
  | resident hname hfound htext => rw [hname, Option.map_some, hown _ _ hfound]
  | stored hname hstale hfound htext => rw [hname, Option.map_some, hnamed.load_name hfound]
  | generated hname hstale habsent hcommit =>
    rw [hname, Option.map_some, hnamed.commit_name hcommit]

/-- The module that a request answers has one of the names of its library. -/
theorem ServeStep.name (hnamed : store.Named) (hown : g.OwnNames) {served : Served σ}
    (h : ServeStep env store designator base g events served) (hm : served.root.answer = .ok m) :
    ∃ located friendly, env.locate g.world designator base = .ok located ∧
      located.library.friendlyName = .ok friendly ∧
      m.name = friendly.getD located.library.identity.wrapperName := by
  cases h with
  | unlocated hlocate => cases hm
  | failed hlocate hwrapper => cases hm
  | @finished located _ _ wrapper _ between chased r hlocate hwrapper hchase hfriendly =>
    obtain ⟨e | friendly, after⟩ := r
    · cases hm
    · have hvisits := Taken.of_chaseFrom hchase
      have hname := hfriendly.name hnamed
        (hvisits.moves.ownNames (hwrapper.moves.ownNames hown))
      have hwrapperName := hwrapper.name hnamed hown
      refine ⟨located, friendly.map Module.name, hlocate, hname, ?_⟩
      obtain rfl := Except.ok.inj hm
      rcases friendly with _ | m
      · exact hwrapperName
      · rfl

/-- The names of a library, told once the store of a request is open, are those of the module that
the request answers and of the wrapper that it leaves resident. -/
theorem names_of_request (hnamed : (g.openStore env).1.Named) (hown : g.OwnNames)
    (hm : (g.request env designator base).1 = .ok m) :
    ∃ n, env.names (g.openStore env).2.world designator base = .ok n ∧
      m.name = n.friendly.getD n.wrapper ∧
      ∃ w, (g.request env designator base).2.resident.get? n.wrapper = some w ∧
        w.name = n.wrapper := by
  have hstep := serve_step env designator base g
  have hopened := hown.openStore env
  have hroot : ∀ e, (g.serve env designator base).root ≠ .failed e := by
    intro e he
    rw [request_answer, he] at hm
    cases hm
  obtain ⟨located, friendly, hlocate, hfriendly, hname⟩ := hstep.name hnamed hopened hm
  obtain ⟨w, hw⟩ := hstep.made hnamed hlocate hroot
  exact ⟨_, Environment.names_of_locate hlocate hfriendly, hname, w, hw,
    (serve_moves env designator base g).ownNames hopened _ _ hw⟩

/-- The names of a library predict a request for it, unless opening the store of the request changes
them: a request that succeeds answers the friendly module or, without a friendly name, the wrapper,
and leaves the wrapper resident; and where there are no names, the request fails. -/
theorem request_named (henv : ∀ directory world, (env.openStore directory world).1.Named)
    (hreach : g.Reachable) (hg : g.KeepsNames) (designator : Designator) (base : Option Path)
    {world : σ} (hopen : env.names world designator base =
      env.names (g.openStore env).2.world designator base) :
    (∀ m, (g.request env designator base).1 = .ok m →
      ∃ n, env.names world designator base = .ok n ∧ m.name = n.friendly.getD n.wrapper ∧
        ∃ w, (g.request env designator base).2.resident.get? n.wrapper = some w ∧
          w.name = n.wrapper) ∧
    ∀ e, env.names world designator base = .error e →
      ∃ e', (g.request env designator base).1 = .error e' := by
  rw [hopen]
  have hnamed := openStore_named henv hg
  refine ⟨fun m hm => names_of_request hnamed hreach.ownNames hm, fun e he => ?_⟩
  rcases hrequest : (g.request env designator base).1 with e' | m
  · exact ⟨e', rfl⟩
  · obtain ⟨n, hn, -⟩ := names_of_request hnamed hreach.ownNames hrequest
    rw [he] at hn
    cases hn

/-- On a shelf with one library, that library and one that is missing: the names say which module
the first request is answered with, and that the second fails. -/
theorem request_named_shared :
    let i : Identity := ⟨⟨10#128⟩, 1, 0, 0⟩
    let missing : Identity := ⟨⟨11#128⟩, 1, 0, 0⟩
    let d : Descriptor := { Descriptor.bare i with name := some "Shared" }
    let g := Shelf.fresh [d]
    (∃ m n w, (g.request Shelf.environment (.exact i) none).1 = .ok m ∧
      Shelf.environment.names g.world (.exact i) none = .ok n ∧
      m.name = n.friendly.getD n.wrapper ∧
      (g.request Shelf.environment (.exact i) none).2.resident.get? n.wrapper = some w ∧
      w.name = n.wrapper) ∧
    ∃ e, (g.request Shelf.environment (.exact missing) none).1 = .error e := by
  intro i missing d g
  have hnamed : Shelf.store.Named := (Shelf.store_lawful []).named
  have henv : ∀ directory world, (Shelf.environment.openStore directory world).1.Named :=
    fun _ _ => hnamed
  have hreach : g.Reachable := Shelf.reachable_fresh _
  have hkeeps : g.KeepsNames := by
    rintro store hgiven
    cases hgiven
    exact hnamed
  have hopen (j : Identity) : Shelf.environment.names g.world (.exact j) none =
      Shelf.environment.names (g.openStore Shelf.environment).2.world (.exact j) none := rfl
  have hpredicts (j : Identity) := request_named henv hreach hkeeps (.exact j) none (hopen j)
  have hfind : Shelf.find [d] i = some d := rfl
  have hread : d.items = .ok .empty := rfl
  have hname : friendlyName d.declaredName = .ok (some ⟨"Shared"⟩) := by decide
  obtain ⟨m, hm, -⟩ : ∃ m, (g.request Shelf.environment (.exact i) none).1 = .ok m ∧ _ :=
    Shelf.answer_fresh hfind hread hname
  obtain ⟨n, hn, hmName, w, hw, hwName⟩ := (hpredicts i).1 m hm
  have hmissing : Shelf.find [d] missing = none := Shelf.find_singleton (by decide)
  have hnone : Shelf.environment.names g.world (.exact missing) none =
      .error (.load (.missing missing.text)) :=
    Environment.names_of_error (Shelf.locate_exact_missing hmissing)
  exact ⟨⟨m, n, w, hm, hn, hmName, hw, hwName⟩, (hpredicts missing).2 _ hnone⟩

/-- Where requests work with one store, only the first of them changes anything by opening it. -/
theorem openStore_settled {number : Nat} {w : World} {destination : Destination World}
    {store : Store World} (hfixed : World.Fixed number w destination store)
    {requests : List (Action World)}
    (hrequests : ∀ action ∈ requests, action.IsRequestWith (World.openStore number))
    (hsome : requests ≠ []) {env : Environment World}
    (henv : env.openStore = World.openStore number) :
    let g := run requests (start w destination)
    (g.openStore env).2.world = g.world := by
  intro g
  obtain ⟨worlds, hstore, hfixes, -⟩ := hfixed.fixes
  obtain ⟨hagrees, hdestination⟩ := run_start_agrees hstore hfixes hrequests hsome
  rw [openStore_eq, henv, hdestination, hfixes.rests hagrees.world]

/-- A request whose library has neither a friendly name nor unreadable items succeeds if its
wrapper can be committed. -/
theorem request_answers_nameless {worlds lawful : σ → Prop} {opened : Generator σ} {items : Items}
    (hopen : g.openStore env = (store, opened))
    (hlocate : env.locate opened.world designator base = .ok located)
    (hread : env.items located.library = .ok items)
    (hname : located.library.friendlyName = .ok none)
    (hcommits : store.Commits worlds located.library.identity.wrapperName)
    (hworld : worlds opened.world) (hstore : store.Lawful lawful) (hlawful : lawful opened.world) :
    ∃ m, (g.request env designator base).1 = .ok m := by
  have hstep := serve_step env designator base g
  rw [hopen] at hstep
  have hroot := hstep.succeeds hlocate hread hcommits hworld
  exact hstep.answers hstore hlocate hroot hlawful hname nofun

/-! ## A directory that does not exist yet -/

/-- A library without a name and without items. -/
def nameless : Identity := ⟨⟨0x0000000a000000000000000000000000#128⟩, 1, 0, 0⟩

/-- Its descriptor. -/
def namelessText : String :=
  "\x7b\"libid\":\"0000000a-0000-0000-0000-000000000000\",\"major\":1,\"minor\":0\x7d"

/-- Files with this descriptor right below the root, and nothing else. -/
def namelessFiles : Files := ⟨.ofList [(["a.json"], .file namelessText.toUTF8)], none⟩

/-- The path of the descriptor by way of the directory that modules are to go into. -/
def throughDirectory : Path := ⟨"/gen/../a.json"⟩

/-- A generator that has done nothing, with modules to go into that directory. -/
def beforeDirectory : Generator World :=
  start ⟨namelessFiles, [.empty]⟩ (.configured (some genDirectory.path))

theorem namelessText_parse : Descriptor.parse? namelessText = some (.bare nameless) :=
  Descriptor.parse?_eq_bare (by decide +kernel)

/-- Once the directory is made, the descriptor is read through it, and the wrapper can be written
to it. -/
theorem genDirectory_prepare_nameless : ∃ made,
    genDirectory.prepare namelessFiles = (made, none) ∧
      readDescriptor made throughDirectory =
        .ok ⟨.bare nameless, some throughDirectory⟩ ∧
      ∀ text, ∃ after,
        genDirectory.writeText made (genDirectory.modulePath nameless.wrapperName) text =
          .ok after := by
  have hnone : (genDirectory.prepare namelessFiles).2 = none := by decide
  have hfind : (genDirectory.prepare namelessFiles).1.find genDirectory.path =
      .ok (["gen"], .directory) := by decide
  have hfile : (genDirectory.prepare namelessFiles).1.find throughDirectory =
      .ok (["a.json"], .file namelessText.toUTF8) := by decide
  have hlocate : (genDirectory.prepare namelessFiles).1.locate
      (genDirectory.modulePath nameless.wrapperName) =
        .ok ["gen", nameless.wrapperName.stem ++ ".rs"] := by decide
  have hnode : (genDirectory.prepare namelessFiles).1.node?
      ["gen", nameless.wrapperName.stem ++ ".rs"] ≠ some .directory := by decide
  have habsolute : genDirectory.path.isAbsolute = true := by decide
  have hslash : (genDirectory.modulePath nameless.wrapperName).endsWithSlash = false := by
    decide
  generalize hmade : (genDirectory.prepare namelessFiles).1 = made at hfind hfile hlocate hnode
  have hread : made.readText throughDirectory = .ok namelessText :=
    Files.readText_of_readBytes (by simp only [Files.readBytes, hfile])
  refine ⟨made, Prod.ext hmade hnone, ?_, fun text =>
    ⟨_, Files.replaceFile_of_find habsolute hfind hlocate hnode hslash⟩⟩
  simp only [readDescriptor, hread, namelessText_parse]

/-- Reading through the directory is all that locating the library depends on. -/
theorem locate_throughDirectory (files : Files) (memories : List SealedTable) :
    loadedOnly.locate ⟨files, memories⟩ (.absolute throughDirectory) none =
      match readDescriptor files throughDirectory with
      | .error e => .error (.load e)
      | .ok library => .ok ⟨library, some throughDirectory⟩ := by
  have habsolute : throughDirectory.isAbsolute = true := by decide
  have hload : Loader.load ⟨.empty, []⟩ files (.path throughDirectory) =
      readDescriptor files throughDirectory := by
    simp only [Loader.load, Loader.loadPath, Loader.fileOf, habsolute, if_true]
  rw [← hload]
  rfl

/-- The names of a library cannot be told yet, but a request for it succeeds, since it makes the
directory that the path of the library goes through. -/
theorem names_not_found :
    beforeDirectory.Reachable ∧
      loadedOnly.names beforeDirectory.world (.absolute throughDirectory) none =
        .error (.load (.missing throughDirectory.text)) ∧
      ∃ m, (beforeDirectory.request loadedOnly (.absolute throughDirectory) none).1 = .ok m := by
  refine ⟨⟨[], _, _, rfl⟩, ?_, ?_⟩
  · have hfind : namelessFiles.find throughDirectory = .error .missing := by decide
    refine Environment.names_of_error ((locate_throughDirectory namelessFiles [.empty]).trans ?_)
    simp only [readDescriptor, Files.readText, Files.readBytes, hfind]
  · obtain ⟨made, hprepare, hread, hwrite⟩ := genDirectory_prepare_nameless
    have hcommits : (World.directory genDirectory).Commits
        (fun w => w = ⟨made, [.empty]⟩) nameless.wrapperName := by
      rintro w rfl text
      obtain ⟨after, hafter⟩ := hwrite (sealText nameless.wrapperName text)
      have hcommit := World.directory_commit (w := ⟨made, [.empty]⟩)
        ((ModuleDirectory.isPrepared_of_prepare hprepare).commit
          nameless.wrapperName_isIdentifier hafter)
      exact ⟨_, _, hcommit⟩
    have hlocate : loadedOnly.locate ⟨made, [.empty]⟩ (.absolute throughDirectory) none =
        .ok ⟨⟨.bare nameless, some throughDirectory⟩, some throughDirectory⟩ := by
      rw [locate_throughDirectory, hread]
    have hopen : beforeDirectory.openStore loadedOnly =
        (World.directory genDirectory, { beforeDirectory with world := ⟨made, [.empty]⟩ }) :=
      World.openStore_directory rfl rfl hprepare
    have hitems : (Descriptor.bare nameless).items = .ok .empty := rfl
    exact request_answers_nameless hopen hlocate hitems rfl hcommits rfl
      (World.directory_lawful genDirectory) (ModuleDirectory.leads_of_prepare hprepare)

end Generator

end Typelib
