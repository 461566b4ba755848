import Typelib.Proofs.Files.Writes
import Typelib.Proofs.Store.Directory

/-!
# Stores side by side

The stores of a `World` lie in memory and in directories of one tree of files, and a generator may
work with one after the other.  A change of the world `Spares` a name if it leaves what is stored
under that name in any store alone.  Opening a store spares the names of all modules
(`openStore_spares`), and a commit to a store that `IsOpen` spares every name but its own
(`IsOpen.commit_spares`), so what another open store holds under that name is there afterwards
exactly if it was there before (`IsOpen.load_iff`).
-/

namespace Typelib

/-! ## Directories -/

namespace ModuleDirectory

variable {d : ModuleDirectory} {files after : Files} {loc : Location} {stem text : String}
  {name other : ModuleName}

/-- The name of the file of a stem. -/
def fileName (stem : String) : String := stem ++ ".rs"

theorem fileName_injective {stem other : String} (h : fileName stem = fileName other) :
    stem = other :=
  (String.append_left_inj _).mp h

theorem writesOnly_writeText (hstem : '/' ∉ stem.toList)
    (h : d.writeText files (d.fileOf stem) text = .ok after) :
    files.WritesOnly [fileName stem] after :=
  Files.writesOnly_replaceFile (isFileName_source hstem) h

theorem writesOnly_prepare (d : ModuleDirectory) (files : Files) :
    files.WritesOnly [fileName ModuleName.packageStem] (d.prepare files).1 := by
  have hmake := Files.writesOnly_makeDirectories [fileName ModuleName.packageStem] files d.path
  unfold prepare
  rcases hmade : files.makeDirectories d.path with ⟨made, _ | fault⟩
  · rw [hmade] at hmake
    dsimp only
    split
    · exact hmake
    · rcases hwrite : d.writeText made d.initializerPath initializer with fault | written
      · exact hmake
      · exact hmake.trans (writesOnly_writeText slash_not_mem_packageStem hwrite)
  · rw [hmade] at hmake
    exact hmake

/-- A commit writes the file of its module and perhaps that of the package. -/
theorem CommitStep.writesOnly {r : Except StoreError Module × Files}
    (h : CommitStep d files name text r) (hname : IsIdentifier name.member) :
    files.WritesOnly [fileName ModuleName.packageStem, fileName name.stem] r.2 := by
  have hprepared := (writesOnly_prepare d files).mono
    (List.subset_cons_of_subset _ (List.Subset.refl _) : _ ⊆ fileName name.stem :: _)
  have hswap : [fileName name.stem, fileName ModuleName.packageStem] ⊆
      [fileName ModuleName.packageStem, fileName name.stem] := by simp
  cases h with
  | unprepared hprepare =>
    rw [hprepare] at hprepared
    exact hprepared.mono hswap
  | unwritten hprepare hwrite =>
    rw [hprepare] at hprepared
    exact hprepared.mono hswap
  | written hprepare hwrite hfound =>
    rw [hprepare] at hprepared
    have hwritten := writesOnly_writeText (slash_not_mem_stem hname) hwrite
    exact (hprepared.mono hswap).trans (hwritten.mono (by simp))

theorem lookup_eq_hit {m : Module} :
    d.lookup files name = .hit m ↔ ∃ text body, files.readText (d.modulePath name) = .ok text ∧
      readSealed name text = .ok body ∧ m = ⟨name, body, .file (d.modulePath name)⟩ := by
  unfold lookup
  dsimp only
  rcases hread : files.readText (d.modulePath name) with fault | text
  · cases fault <;> simp
  · rcases hopen : readSealed name text with e | body
    · simp [hopen]
    · simp [hopen, eq_comm]

/-- A module is committed to a directory that is prepared if its file can be written. -/
theorem IsPrepared.commit (h : d.IsPrepared files) (hname : IsIdentifier name.member)
    (hwrite : d.writeText files (d.modulePath name) (sealText name text) = .ok after) :
    d.commit files name text = (.ok ⟨name, text, .file (d.modulePath name)⟩, after) := by
  rw [commit_of_writeText h.prepare hwrite, lookup_writeText (lineFeed_not_mem_text hname) hwrite,
    Store.imported]

/-- A directory holds the same module under a name as long as there is the same file. -/
theorem lookup_iff (h : files.Leads d.path loc) (hafter : after.Leads d.path loc)
    (hname : IsIdentifier name.member)
    (hfile : ∀ content, after.node? (loc ++ [fileName name.stem]) = some (.file content) ↔
      files.node? (loc ++ [fileName name.stem]) = some (.file content)) {m : Module} :
    d.lookup after name = .hit m ↔ d.lookup files name = .hit m := by
  have hread : ∀ text, after.readText (d.modulePath name) = .ok text ↔
      files.readText (d.modulePath name) = .ok text := fun _ =>
    h.readText_iff hafter (isFileName_source (slash_not_mem_stem hname)) hfile
  simp only [lookup_eq_hit, hread]

end ModuleDirectory

/-! ## The stores of a world -/

namespace World

variable {w w' w'' : World} {number : Nat} {store : Store World} {name other : ModuleName}

/-- The directories and the stores in memory are still there. -/
structure Keeps (w w' : World) : Prop where
  directories : w.files.KeepsDirectories w'.files
  length_eq : w'.memories.length = w.memories.length

theorem Keeps.refl (w : World) : Keeps w w := ⟨⟨rfl, id⟩, rfl⟩

theorem Keeps.trans (h : Keeps w w') (h' : Keeps w' w'') : Keeps w w'' :=
  ⟨h.directories.trans h'.directories, h'.length_eq.trans h.length_eq⟩

/-- They are still there, and each of them holds what it held under a name. -/
structure Spares (name : ModuleName) (w w' : World) : Prop extends Keeps w w' where
  file_iff : ∀ {loc content},
    w'.files.node? (loc ++ [ModuleDirectory.fileName name.stem]) = some (.file content) ↔
      w.files.node? (loc ++ [ModuleDirectory.fileName name.stem]) = some (.file content)
  sealed_eq : ∀ number, (w'.sealed number).get? name = (w.sealed number).get? name

theorem Spares.refl (name : ModuleName) (w : World) : Spares name w w where
  toKeeps := .refl w
  file_iff := Iff.rfl
  sealed_eq _ := rfl

theorem Spares.trans (h : Spares name w w') (h' : Spares name w' w'') : Spares name w w'' where
  toKeeps := h.toKeeps.trans h'.toKeeps
  file_iff := h'.file_iff.trans h.file_iff
  sealed_eq number := (h'.sealed_eq number).trans (h.sealed_eq number)

/-- Writing files of other names spares a name. -/
theorem spares_files {names : List String} {files : Files} (h : w.files.WritesOnly names files)
    (hname : ModuleDirectory.fileName name.stem ∉ names) : Spares name w { w with files } where
  toKeeps := ⟨h.toKeepsDirectories, rfl⟩
  file_iff := h.file_iff hname
  sealed_eq _ := rfl

/-- Committing another module to memory spares a name. -/
theorem memory_commit_spares (number : Nat) (text : String) (hne : name ≠ other) :
    Spares name w ((memory number).commit w other text).2 where
  toKeeps := ⟨⟨rfl, id⟩, List.length_set⟩
  file_iff := Iff.rfl
  sealed_eq k := by
    have hother : ((w.sealed number).insert other (sealText other text)).get? name =
        (w.sealed number).get? name := by
      rw [Table.get?_insert, if_neg hne]
    show ((w.memories.set number _).getD k .empty).get? name = (w.memories.getD k .empty).get? name
    rw [List.getD_eq_getElem?_getD, List.getElem?_set]
    by_cases hk : number = k
    · subst hk
      by_cases hlt : number < w.memories.length
      · rw [if_pos rfl, if_pos hlt]
        exact hother
      · rw [if_pos rfl, if_neg hlt, List.getD_eq_default _ _ (Nat.le_of_not_lt hlt)]
        rfl
    · rw [if_neg hk, List.getD_eq_getElem?_getD]

/-- Where there were no files, a directory holds nothing under a name that was spared. -/
theorem Spares.not_hit (h : Spares name w w') (hempty : w.files.nodes = .empty)
    (hname : IsIdentifier name.member) (d : ModuleDirectory) (m : Module) :
    (directory d).load w' name ≠ .hit m := by
  intro hm
  rw [directory_load] at hm
  obtain ⟨loc, hleads⟩ := ModuleDirectory.leads_of_lookup hname hm
  obtain ⟨text, body, hread, -⟩ := ModuleDirectory.lookup_eq_hit.mp hm
  obtain ⟨-, content, hnode, -⟩ :=
    (hleads.readText_eq_ok (isFileName_source (ModuleDirectory.slash_not_mem_stem hname))).mp hread
  have hbefore := h.file_iff.mp hnode
  simp [Files.node?, hempty] at hbefore

theorem directory_commit {d : ModuleDirectory} {text : String} {r : Except StoreError Module}
    {files : Files} (h : d.commit w.files name text = (r, files)) :
    (directory d).commit w name text = (r, { w with files }) := by
  show (let (result, part) := d.commit w.files name text; (result, { w with files := part })) = _
  rw [h]

/-! ## Open stores -/

/-- A store in memory that there is, or one in a directory that is there. -/
inductive IsOpen (w : World) : Store World → Prop
  | memory {number : Nat} (hnumber : number < w.memories.length) : IsOpen w (memory number)
  | directory {d : ModuleDirectory} {loc : Location} (hleads : w.files.Leads d.path loc) :
      IsOpen w (directory d)

theorem IsOpen.named (h : w.IsOpen store) : store.Named := by
  cases h with
  | memory hnumber => exact memory_named _
  | directory hleads => exact directory_named _

theorem IsOpen.kept (h : w.IsOpen store) (hkeeps : Keeps w w') : w'.IsOpen store := by
  cases h with
  | memory hnumber => exact .memory (by rw [hkeeps.length_eq]; exact hnumber)
  | directory hleads => exact .directory (hkeeps.directories.leads hleads)

/-- What an open store holds under a name that is spared is there afterwards exactly if it was
there before. -/
theorem IsOpen.load_iff (h : w.IsOpen store) (hspares : Spares name w w')
    (hname : IsIdentifier name.member) {m : Module} :
    store.load w' name = .hit m ↔ store.load w name = .hit m := by
  cases h with
  | @memory number hnumber =>
    show (w'.sealed number).lookup name = _ ↔ (w.sealed number).lookup name = _
    unfold SealedTable.lookup
    rw [hspares.sealed_eq]
  | @directory d loc hleads =>
    rw [directory_load, directory_load]
    exact ModuleDirectory.lookup_iff hleads (hspares.directories.leads hleads) hname
      fun _ => hspares.file_iff

/-- A commit to an open store keeps all stores. -/
theorem IsOpen.commit_keeps (h : w.IsOpen store) (hname : IsIdentifier name.member)
    (text : String) : Keeps w (store.commit w name text).2 := by
  cases h with
  | memory hnumber => exact ⟨⟨rfl, id⟩, List.length_set⟩
  | @directory d loc hleads =>
    have hstep := d.commit_step w.files (lineFeed_not_mem_text hname) text
    exact ⟨(hstep.writesOnly hname).toKeepsDirectories, rfl⟩

/-- It spares every name but its own. -/
theorem IsOpen.commit_spares (h : w.IsOpen store) (hname : IsIdentifier name.member)
    (hother : IsIdentifier other.member) (hne : name ≠ other) (text : String) :
    Spares name w (store.commit w other text).2 := by
  cases h with
  | memory hnumber => exact memory_commit_spares _ text hne
  | @directory d loc hleads =>
    have hstep := d.commit_step w.files (lineFeed_not_mem_text hother) text
    refine spares_files (hstep.writesOnly hother) fun hmem => ?_
    rcases List.mem_cons.mp hmem with hpackage | hmodule
    · exact ModuleDirectory.stem_ne_packageStem hname (ModuleDirectory.fileName_injective hpackage)
    · exact ModuleDirectory.stem_ne hother hname hne
        (ModuleDirectory.fileName_injective (List.mem_singleton.mp hmodule))

/-- The files that opening a store leaves. -/
theorem openStore_world (number : Nat) (configured : Option Path) (w : World) :
    (openStore number configured w).2 = w ∨ ∃ p, (openStore number configured w).2 =
      { w with files := (ModuleDirectory.prepare ⟨p⟩ w.files).1 } := by
  rcases configured with _ | p
  · exact .inl rfl
  · refine .inr ⟨p, ?_⟩
    rcases hprepare : ModuleDirectory.prepare ⟨p⟩ w.files with ⟨made, _ | fault⟩ <;>
      simp only [openStore, ModuleDirectory.openAt, hprepare]

/-- Opening a store keeps all stores. -/
theorem openStore_keeps (number : Nat) (configured : Option Path) (w : World) :
    Keeps w (openStore number configured w).2 := by
  rcases openStore_world number configured w with heq | ⟨p, heq⟩
  · rw [heq]
    exact .refl w
  · rw [heq]
    exact ⟨(ModuleDirectory.writesOnly_prepare ⟨p⟩ w.files).toKeepsDirectories, rfl⟩

/-- Opening a store spares the names of all modules. -/
theorem openStore_spares (number : Nat) (configured : Option Path) (w : World)
    (hname : IsIdentifier name.member) : Spares name w (openStore number configured w).2 := by
  rcases openStore_world number configured w with heq | ⟨p, heq⟩
  · rw [heq]
    exact .refl name w
  · rw [heq]
    refine spares_files (ModuleDirectory.writesOnly_prepare ⟨p⟩ w.files) fun hmem => ?_
    exact ModuleDirectory.stem_ne_packageStem hname
      (ModuleDirectory.fileName_injective (List.mem_singleton.mp hmem))

/-- A store that is opened is open. -/
theorem isOpen_openStore {number : Nat} (hnumber : number < w.memories.length)
    (configured : Option Path) :
    (openStore number configured w).2.IsOpen (openStore number configured w).1 := by
  rcases configured with _ | p
  · exact .memory hnumber
  · rcases hprepare : ModuleDirectory.prepare ⟨p⟩ w.files with ⟨made, _ | fault⟩
    · simp only [openStore, ModuleDirectory.openAt, hprepare]
      obtain ⟨loc, hleads⟩ := ModuleDirectory.leads_of_prepare hprepare
      exact .directory hleads
    · simp only [openStore, ModuleDirectory.openAt, hprepare]
      exact .memory hnumber

/-- An open store keeps what it is given. -/
theorem IsOpen.retentive (h : w.IsOpen store) :
    ∃ worlds, store.Retentive worlds ∧ worlds w := by
  cases h with
  | memory hnumber => exact ⟨_, memory_retentive _, hnumber⟩
  | directory hleads => exact ⟨_, directory_retentive _, trivial⟩

end World

end Typelib
