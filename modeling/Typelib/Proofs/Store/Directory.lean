import Typelib.Generator.World
import Typelib.Proofs.Files.Basic
import Typelib.Proofs.Module.Name
import Typelib.Proofs.Store.Laws

/-!
# The store in a directory

A commit to a directory fails before the file of its module is written, or the module is read back
with its text (`commit_step`).  It writes that file and perhaps the one of the package, and no file
of another module (`CommitStep.rewrites`), and only the latter if it fails.  So a store in a
directory is faithful and retentive (`directory_faithful`, `directory_retentive`), lawful as long as
the directory is there (`directory_lawful`), and reliable as long as it is prepared
(`directory_reliable`), which it is once it has been opened; whatever a `World` is configured with,
the store it opens is so (`openStore_lawful`, `openStore_reliable`).
-/

namespace Typelib

/-! ## The files of modules -/

theorem isFileName_source {stem : String} (h : '/' ∉ stem.toList) :
    IsFileName (stem ++ ".rs") := by
  have hsource : ".rs".toList = ['.', 'r', 's'] := by decide
  refine ⟨by simp [hsource, h], by simp [hsource], fun heq => ?_, fun heq => ?_⟩
  · have hlength := congrArg (fun s => s.toList.length) heq
    simp [hsource] at hlength
  · have hlength := congrArg (fun s => s.toList.length) heq
    simp [hsource] at hlength

namespace ModuleDirectory

variable {d : ModuleDirectory} {files after : Files} {loc : Location} {stem text : String}
  {name other : ModuleName}

theorem slash_not_mem_stem (h : IsIdentifier name.member) : '/' ∉ name.stem.toList := by
  rw [ModuleName.stem_of_isIdentifier h]
  exact ModuleName.separator_not_mem h (by decide)

theorem slash_not_mem_packageStem : '/' ∉ ModuleName.packageStem.toList := by decide

/-- The files of modules lie apart from that of the package. -/
theorem stem_ne_packageStem (hname : IsIdentifier name.member) :
    name.stem ≠ ModuleName.packageStem := by
  rw [ModuleName.stem_of_isIdentifier hname]
  intro heq
  refine hname.notKeyword ?_
  rw [heq]
  decide

/-- The files of modules lie apart from each other. -/
theorem stem_ne (hname : IsIdentifier name.member) (hother : IsIdentifier other.member)
    (hne : other ≠ name) : other.stem ≠ name.stem := by
  rw [ModuleName.stem_of_isIdentifier hname, ModuleName.stem_of_isIdentifier hother]
  exact fun heq => hne (congrArg ModuleName.mk heq)

/-! ## Changes of the directory -/

/-- The directory is still there, and of the files in it only those of some stems have changed. -/
structure Rewrites (d : ModuleDirectory) (loc : Location) (stems : List String)
    (files after : Files) : Prop where
  leads : after.Leads d.path loc
  same : ∀ {stem}, stem ∉ stems →
    after.node? (loc ++ [stem ++ ".rs"]) = files.node? (loc ++ [stem ++ ".rs"])

theorem Rewrites.refl {stems : List String} (h : files.Leads d.path loc) :
    Rewrites d loc stems files files :=
  ⟨h, fun _ => rfl⟩

theorem Rewrites.append {made : Files} {stems more : List String}
    (h : Rewrites d loc stems files made) (h' : Rewrites d loc more made after) :
    Rewrites d loc (stems ++ more) files after where
  leads := h'.leads
  same hstem := by
    rw [List.mem_append, not_or] at hstem
    exact (h'.same hstem.2).trans (h.same hstem.1)

theorem Rewrites.of_writeText (h : files.Leads d.path loc) (hstem : '/' ∉ stem.toList)
    (hwrite : d.writeText files (d.fileOf stem) text = .ok after) :
    Rewrites d loc [stem] files after := by
  obtain ⟨hleads, hsame⟩ := h.replaceFile_child (isFileName_source hstem) hwrite
  refine ⟨hleads, fun {other} hother => hsame _ fun heq => hother ?_⟩
  rw [List.append_cancel_left_eq, List.cons.injEq, String.append_left_inj] at heq
  exact List.mem_singleton.mpr heq.1

theorem Rewrites.of_prepare (h : files.Leads d.path loc) :
    Rewrites d loc [ModuleName.packageStem] files (d.prepare files).1 := by
  unfold prepare
  rw [h.makeDirectories]
  dsimp only
  split
  · exact .refl h
  · rcases hwrite : d.writeText files d.initializerPath initializer with fault | written
    · exact .refl h
    · exact .of_writeText h slash_not_mem_packageStem hwrite

/-- What is looked up depends on the file of the module only. -/
theorem Rewrites.lookup {stems : List String} (h : Rewrites d loc stems files after)
    (hleads : files.Leads d.path loc) (hname : IsIdentifier name.member)
    (hstem : name.stem ∉ stems) : d.lookup after name = d.lookup files name := by
  have hread := hleads.readText_congr h.leads (isFileName_source (slash_not_mem_stem hname))
    (h.same hstem)
  unfold ModuleDirectory.lookup modulePath fileOf
  dsimp only
  rw [hread]

/-- A text that was written is read back. -/
theorem readText_writeText {p : Path} (hwrite : d.writeText files p text = .ok after) :
    after.readText p = .ok text :=
  Files.readText_of_readBytes
    (Files.readBytes_writeFile (Files.writeFile_of_replaceFile hwrite))

/-- A module that was written is found, with its text. -/
theorem lookup_writeText (hname : '\n' ∉ name.text.toList)
    (hwrite : d.writeText files (d.modulePath name) (sealText name text) = .ok after) :
    d.lookup after name = .hit ⟨name, text, .file (d.modulePath name)⟩ := by
  have hread := readText_writeText hwrite
  unfold ModuleDirectory.lookup
  dsimp only
  rw [hread]
  dsimp only
  rw [readSealed_sealText text hname]

/-- The directory is there if a module is found in it. -/
theorem leads_of_lookup (hname : IsIdentifier name.member) {m : Module}
    (h : d.lookup files name = .hit m) : ∃ loc, files.Leads d.path loc := by
  unfold ModuleDirectory.lookup at h
  dsimp only at h
  rcases hread : files.readText (d.modulePath name) with fault | text
  · rw [hread] at h
    cases fault <;> cases h
  · obtain ⟨l, hlocate⟩ := Files.locate_of_readText hread
    exact Files.leads_of_locate_child (isFileName_source (slash_not_mem_stem hname)) hlocate

/-! ## Preparing the directory -/

/-- A directory that was made is there if the file of the package can be located. -/
theorem leads_of_locate {l : Location} (hmake : files.makeDirectories d.path = (after, none))
    (hlocate : after.locate d.initializerPath = .ok l) : ∃ loc, after.Leads d.path loc := by
  by_cases hp : d.path.text = ""
  · exact Files.leads_of_locate_ofName hp (isFileName_source slash_not_mem_packageStem) hlocate
  · exact Files.leads_of_makeDirectories hp hmake

/-- The directory and the file of the package are there. -/
structure IsPrepared (d : ModuleDirectory) (files : Files) : Prop where
  leads : ∃ loc, files.Leads d.path loc
  initializer : files.isFile d.initializerPath = true

/-- A directory that is prepared is left as it is. -/
theorem IsPrepared.prepare (h : d.IsPrepared files) : d.prepare files = (files, none) := by
  obtain ⟨⟨loc, hleads⟩, hfile⟩ := h
  unfold ModuleDirectory.prepare
  rw [hleads.makeDirectories]
  dsimp only
  rw [if_pos hfile]

theorem isPrepared_of_prepare (h : d.prepare files = (after, none)) : d.IsPrepared after := by
  unfold prepare at h
  rcases hmake : files.makeDirectories d.path with ⟨made, _ | fault⟩
  · rw [hmake] at h
    dsimp only at h
    split at h
    · rename_i hfile
      cases h
      obtain ⟨l, hlocate⟩ := Files.locate_of_isFile hfile
      exact ⟨leads_of_locate hmake hlocate, hfile⟩
    · rcases hwrite : d.writeText made d.initializerPath initializer with fault | written
      · simp [hwrite] at h
      · rw [hwrite] at h
        cases h
        obtain ⟨l, hlocate⟩ := Files.locate_of_writeFile (Files.writeFile_of_replaceFile hwrite)
        obtain ⟨loc, hleads⟩ := leads_of_locate hmake hlocate
        have hbytes := Files.readBytes_writeFile (Files.writeFile_of_replaceFile hwrite)
        exact ⟨⟨loc, (Rewrites.of_writeText hleads slash_not_mem_packageStem hwrite).leads⟩,
          Files.isFile_of_readBytes hbytes⟩
  · rw [hmake] at h
    cases h

/-- A directory that can be prepared is opened. -/
theorem openAt_of_prepare {p : Path} (h : (prepare ⟨p⟩ files).2 = none) :
    openAt p files = (.ok ⟨p⟩, (prepare ⟨p⟩ files).1) := by
  unfold openAt
  dsimp only
  rcases hprepare : prepare ⟨p⟩ files with ⟨made, _ | fault⟩
  · rfl
  · rw [hprepare] at h
    cases h

theorem leads_of_prepare (h : d.prepare files = (after, none)) :
    ∃ loc, after.Leads d.path loc :=
  (isPrepared_of_prepare h).leads

/-- Writing a module leaves the file of the package alone. -/
theorem IsPrepared.writeText (h : d.IsPrepared files) (hslash : '/' ∉ name.stem.toList)
    (hne : name.stem ≠ ModuleName.packageStem)
    (hwrite : d.writeText files (d.modulePath name) text = .ok after) : d.IsPrepared after := by
  obtain ⟨⟨loc, hleads⟩, hfile⟩ := h
  have hrewrites : d.Rewrites loc [name.stem] files after :=
    .of_writeText hleads hslash hwrite
  have hother : ModuleName.packageStem ∉ [name.stem] := by simpa using hne.symm
  refine ⟨⟨loc, hrewrites.leads⟩, ?_⟩
  exact (hleads.isFile_congr hrewrites.leads (isFileName_source slash_not_mem_packageStem)
    (hrewrites.same hother)).trans hfile

/-- Preparing a directory that holds a module changes none of its modules. -/
theorem lookup_prepare (hname : IsIdentifier name.member) {m : Module}
    (h : d.lookup files name = .hit m) (hother : IsIdentifier other.member) :
    d.lookup (d.prepare files).1 other = d.lookup files other := by
  obtain ⟨loc, hleads⟩ := leads_of_lookup hname h
  exact (Rewrites.of_prepare hleads).lookup hleads hother
    (by simpa using stem_ne_packageStem hother)

/-! ## Commits -/

/-- If its file can be written, a commit answers what is found afterwards. -/
theorem commit_of_writeText {made : Files} (hprepare : d.prepare files = (made, none))
    (hwrite : d.writeText made (d.modulePath name) (sealText name text) = .ok after) :
    d.commit files name text = (Store.imported name (d.lookup after name), after) := by
  simp only [commit, hprepare, hwrite]

/-- The ways a commit can end. -/
inductive CommitStep (d : ModuleDirectory) (files : Files) (name : ModuleName) (text : String) :
    Except StoreError Module × Files → Prop
  | unprepared {made : Files} {fault : Fault} (hprepare : d.prepare files = (made, some fault)) :
      CommitStep d files name text (.error (.writeFailed name fault), made)
  | unwritten {made : Files} {fault : Fault} (hprepare : d.prepare files = (made, none))
      (hwrite : d.writeText made (d.modulePath name) (sealText name text) = .error fault) :
      CommitStep d files name text (.error (.writeFailed name fault), made)
  | written {made after : Files} (hprepare : d.prepare files = (made, none))
      (hwrite : d.writeText made (d.modulePath name) (sealText name text) = .ok after)
      (hfound : d.lookup after name = .hit ⟨name, text, .file (d.modulePath name)⟩) :
      CommitStep d files name text (.ok ⟨name, text, .file (d.modulePath name)⟩, after)

/-- A module that is written can be looked up, so a commit fails before or succeeds. -/
theorem commit_step (d : ModuleDirectory) (files : Files) (hname : '\n' ∉ name.text.toList)
    (text : String) : CommitStep d files name text (d.commit files name text) := by
  unfold commit
  rcases hprepare : d.prepare files with ⟨made, _ | fault⟩
  · dsimp only
    rcases hwrite : d.writeText made (d.modulePath name) (sealText name text) with fault | after
    · exact .unwritten hprepare hwrite
    · have hfound := lookup_writeText hname hwrite
      dsimp only
      rw [hfound]
      exact .written hprepare hwrite hfound
  · exact .unprepared hprepare

section CommitStep

variable {r : Except StoreError Module × Files} (h : CommitStep d files name text r)

include h

/-- A commit writes the file of its module and perhaps that of the package. -/
theorem CommitStep.rewrites (hleads : files.Leads d.path loc) (hname : IsIdentifier name.member) :
    Rewrites d loc [ModuleName.packageStem, name.stem] files r.2 := by
  have hprepared := Rewrites.of_prepare hleads
  cases h with
  | unprepared hprepare =>
    rw [hprepare] at hprepared
    exact hprepared.append (.refl hprepared.leads)
  | unwritten hprepare hwrite =>
    rw [hprepare] at hprepared
    exact hprepared.append (.refl hprepared.leads)
  | written hprepare hwrite hfound =>
    rw [hprepare] at hprepared
    exact hprepared.append (.of_writeText hprepared.leads (slash_not_mem_stem hname) hwrite)

/-- A commit that fails writes at most the file of the package. -/
theorem CommitStep.rewrites_of_error (hleads : files.Leads d.path loc) {e : StoreError}
    (herror : r.1 = .error e) : Rewrites d loc [ModuleName.packageStem] files r.2 := by
  have hprepared := Rewrites.of_prepare hleads
  cases h with
  | unprepared hprepare => rwa [hprepare] at hprepared
  | unwritten hprepare hwrite => rwa [hprepare] at hprepared
  | written hprepare hwrite hfound => cases herror

/-- A commit that succeeds answers the module that was given, and it is found. -/
theorem CommitStep.eq_of_ok {m : Module} (hok : r.1 = .ok m) :
    m = ⟨name, text, .file (d.modulePath name)⟩ ∧ d.lookup r.2 name = .hit m := by
  cases h with
  | unprepared hprepare => cases hok
  | unwritten hprepare hwrite => cases hok
  | written hprepare hwrite hfound =>
    cases hok
    exact ⟨rfl, hfound⟩

/-- If a directory can be prepared, it is prepared after a commit. -/
theorem CommitStep.isPrepared (hname : IsIdentifier name.member)
    (hopens : (d.prepare files).2 = none) : d.IsPrepared r.2 := by
  cases h with
  | unprepared hprepare =>
    rw [hprepare] at hopens
    cases hopens
  | unwritten hprepare hwrite => exact isPrepared_of_prepare hprepare
  | written hprepare hwrite hfound =>
    exact (isPrepared_of_prepare hprepare).writeText (slash_not_mem_stem hname)
      (stem_ne_packageStem hname) hwrite

end CommitStep

end ModuleDirectory

namespace Store

variable {d : ModuleDirectory} {files : Files} {name : ModuleName}

theorem directory_load : (directory d).load files name = d.lookup files name := by
  simp only [directory]

theorem directory_commit {text : String} :
    (directory d).commit files name text = d.commit files name text := by
  simp only [directory]

/-- Commits to a directory that is there do not concern other modules. -/
theorem directory_lawful (d : ModuleDirectory) :
    (directory d).Lawful fun files => ∃ loc, files.Leads d.path loc where
  named := directory_named d
  keeps := by
    rintro files name ⟨loc, hleads⟩ hname text
    have hstep := d.commit_step files (lineFeed_not_mem_text hname) text
    exact ⟨loc, (hstep.rewrites hleads hname).leads⟩
  frame := by
    rintro files name text other m ⟨loc, hleads⟩ hname hother hne
    have hstep := d.commit_step files (lineFeed_not_mem_text hname) text
    have hrewrites := hstep.rewrites hleads hname
    have hstem := ModuleDirectory.stem_ne hname hother hne
    have hsame := hrewrites.lookup hleads hother
      (by simp [hstem, ModuleDirectory.stem_ne_packageStem hother])
    rw [directory_commit, directory_load, directory_load, hsame]

/-- A directory keeps the texts it is given. -/
theorem directory_faithful (d : ModuleDirectory) (worlds : Files → Prop) :
    (directory d).Faithful worlds where
  text_eq {files name text m after} _ hname hcommit := by
    have hstep := d.commit_step files (lineFeed_not_mem_text hname) text
    rw [directory_commit] at hcommit
    rw [hcommit] at hstep
    rw [(hstep.eq_of_ok rfl).1]

/-- A directory keeps what it is given, whether or not it is there before. -/
theorem directory_retentive (d : ModuleDirectory) : (directory d).Retentive fun _ => True where
  named := directory_named d
  keeps _ _ _ := trivial
  found {files name text m after} _ hname hcommit := by
    have hstep := d.commit_step files (lineFeed_not_mem_text hname) text
    rw [directory_commit] at hcommit
    rw [hcommit] at hstep
    rw [directory_load]
    exact (hstep.eq_of_ok rfl).2
  stays {files name text other m} _ hname hother hne hfound := by
    have hthere := hfound
    rw [directory_load] at hthere
    obtain ⟨loc, hleads⟩ := ModuleDirectory.leads_of_lookup hother hthere
    exact ((directory_lawful d).frame ⟨loc, hleads⟩ hname hother hne).mpr hfound
  refused {files name text e after m} _ hname hcommit hfound := by
    have hstep := d.commit_step files (lineFeed_not_mem_text hname) text
    rw [directory_commit] at hcommit
    rw [hcommit] at hstep
    rw [directory_load] at hfound ⊢
    obtain ⟨loc, hleads⟩ := ModuleDirectory.leads_of_lookup hname hfound
    have hsame : d.lookup after name = d.lookup files name :=
      (hstep.rewrites_of_error hleads rfl).lookup hleads hname
        (by simpa using ModuleDirectory.stem_ne_packageStem hname)
    rw [hsame, hfound]

/-- A commit to a directory that is prepared writes one file or none. -/
theorem directory_atomic (d : ModuleDirectory) : (directory d).Atomic d.IsPrepared where
  load_eq {files name text e after other} hfiles hname hother hcommit := by
    have hstep := d.commit_step files (lineFeed_not_mem_text hname) text
    have hprepared := hfiles.prepare
    rw [directory_commit] at hcommit
    rw [hcommit] at hstep
    rw [directory_load, directory_load]
    cases hstep with
    | unprepared hprepare =>
      rw [hprepared] at hprepare
      cases hprepare
    | unwritten hprepare hwrite =>
      rw [hprepared] at hprepare
      cases hprepare
      rfl

end Store

/-! ## The stores of a world -/

namespace World

theorem directory_load {d : ModuleDirectory} {w : World} {name : ModuleName} :
    (directory d).load w name = d.lookup w.files name := by
  simp only [directory, Store.within, Store.directory_load]

theorem directory_lawful (d : ModuleDirectory) :
    (directory d).Lawful fun w => ∃ loc, w.files.Leads d.path loc :=
  (Store.directory_lawful d).within id (fun _ => id) fun _ _ => .inl rfl

theorem directory_faithful (d : ModuleDirectory) (worlds : World → Prop) :
    (directory d).Faithful worlds :=
  (Store.directory_faithful d fun _ => True).within fun _ => trivial

theorem directory_retentive (d : ModuleDirectory) : (directory d).Retentive fun _ => True :=
  (Store.directory_retentive d).within (fun _ => trivial) (fun _ _ => trivial) fun _ => rfl

/-- Commits to a directory that is prepared leave it so. -/
theorem directory_retentive_isPrepared (d : ModuleDirectory) :
    (directory d).Retentive fun w => d.IsPrepared w.files :=
  (directory_retentive d).mono (fun _ => trivial) fun {w _} hw hname text =>
    (d.commit_step w.files (lineFeed_not_mem_text hname) text).isPrepared hname
      (congrArg Prod.snd hw.prepare)

theorem directory_reliable (d : ModuleDirectory) :
    (directory d).Reliable fun w => d.IsPrepared w.files where
  retentive := directory_retentive_isPrepared d
  faithful := directory_faithful d _
  atomic := (Store.directory_atomic d).within id fun _ _ => .inl rfl

/-- Whatever is configured, the store that is opened keeps the texts it is given. -/
theorem openStore_faithful (number : Nat) (configured : Option Path) (w : World) :
    (openStore number configured w).1.Faithful fun _ => True := by
  unfold openStore
  split
  · exact memory_faithful number
  · split
    · exact directory_faithful _ _
    · exact memory_faithful number

/-- Whatever is configured, the store that is opened is lawful and faithful. -/
theorem openStore_lawful (number : Nat) (configured : Option Path) (w : World) :
    ∃ worlds, (openStore number configured w).1.Lawful worlds ∧
      (openStore number configured w).1.Faithful worlds ∧
      worlds (openStore number configured w).2 := by
  have hfaithful := openStore_faithful number configured w
  rcases configured with _ | p
  · exact ⟨_, memory_lawful number, hfaithful, trivial⟩
  · rcases hprepare : ModuleDirectory.prepare ⟨p⟩ w.files with ⟨made, _ | fault⟩
    · simp only [openStore, ModuleDirectory.openAt, hprepare] at hfaithful ⊢
      exact ⟨_, directory_lawful ⟨p⟩, hfaithful.mono fun _ => trivial,
        ModuleDirectory.leads_of_prepare hprepare⟩
    · simp only [openStore, ModuleDirectory.openAt, hprepare] at hfaithful ⊢
      exact ⟨_, memory_lawful number, hfaithful, trivial⟩

/-- Whatever is configured, the store that is opened is reliable if there is one in memory. -/
theorem openStore_reliable {number : Nat} {w : World} (hnumber : number < w.memories.length)
    (configured : Option Path) :
    ∃ worlds, (openStore number configured w).1.Reliable worlds ∧
      worlds (openStore number configured w).2 := by
  rcases configured with _ | p
  · exact ⟨_, memory_reliable number, hnumber⟩
  · rcases hprepare : ModuleDirectory.prepare ⟨p⟩ w.files with ⟨made, _ | fault⟩
    · simp only [openStore, ModuleDirectory.openAt, hprepare]
      exact ⟨_, directory_reliable ⟨p⟩, ModuleDirectory.isPrepared_of_prepare hprepare⟩
    · simp only [openStore, ModuleDirectory.openAt, hprepare]
      exact ⟨_, memory_reliable number, hnumber⟩

end World

end Typelib
