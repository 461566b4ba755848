import Typelib.Proofs.Files.Listing
import Typelib.Proofs.Store.Calls
import Typelib.Proofs.Store.Neighbours

/-!
# Memory and directories answer alike

The store in memory represents texts by their sealed forms in its table (`memory_represents`).  A
store in a directory represents them by files (`directory_represents`): the directory `Holds` texts
if under each plain name there is the sealed text that is held, or nothing, and if nothing else lies
in it but the file of the package.  That is so when an empty directory has been opened
(`holds_openAt`), and a commit cannot fail as long as the directory has room for the name.  Hence
the two stores answer any calls on plain names alike (`directory_answers_eq`).  A name of several
segments they tell apart, as its file is called after the last one
(`directory_answers_ne_of_segments`).
-/

namespace Typelib

/-! ## The table in memory -/

/-- Under each name the table has the sealed text that is held, or none. -/
def SealedTable.Holds (sealed : SealedTable) (held : ModuleName → Option String) : Prop :=
  ∀ name, sealed.get? name = (held name).map (sealText name)

theorem Store.memory_represents :
    memory.Represents (fun name => '\n' ∉ name.text.toList) (fun _ => .memory)
      SealedTable.Holds where
  load_eq {sealed held name} hsealed hname := by
    have hget := hsealed name
    rcases htext : held name with _ | text
    · rw [htext] at hget
      exact sealedTable_lookup_absent hget
    · rw [htext] at hget
      exact sealedTable_lookup_sealText hname hget
  commit_eq {sealed held name} hsealed hname text := by
    refine ⟨_, memory_commit hname text, fun other => ?_⟩
    rw [Table.get?_insert, Function.update_apply]
    split
    · rename_i hsame
      rw [hsame, Option.map_some]
    · exact hsealed other
  list_eq {sealed held} hsealed := by
    refine ⟨sealed.keys, rfl, fun name => ?_⟩
    rw [← Table.contains_iff, Table.contains, hsealed name, Option.isSome_map]

/-! ## The files of plain names -/

namespace ModuleDirectory

variable {d : ModuleDirectory} {files after opened : Files} {loc : Location}
  {held : ModuleName → Option String} {name : ModuleName} {p : Path} {text : String}

theorem slash_not_mem_of_isPlain (h : name.IsPlain) : '/' ∉ name.stem.toList := by
  rw [h.stem_eq]
  exact h.not_mem (by decide)

theorem stem_ne_of_isPlain (h : name.IsPlain) : name.stem ≠ ModuleName.packageStem := by
  rw [h.stem_eq]
  exact h.apart

/-- The name is read off the name of its file. -/
theorem nameOfFile?_fileName (h : name.IsPlain) : nameOfFile? (fileName name.stem) = some name := by
  have hhidden : name.member.toList.head? ≠ some '.' := fun hhead =>
    h.not_mem (by decide) (List.mem_of_head? hhead)
  unfold nameOfFile? fileName
  rw [h.stem_eq]
  simp [Path.extension?_source h.nonempty, Path.stemOf_source h.nonempty, h.apart, hhidden]

theorem nameOfFile?_packageStem : nameOfFile? (fileName ModuleName.packageStem) = none := by
  decide

/-- Neither the name of the file of a module nor its path is too long. -/
structure HasRoomFor (d : ModuleDirectory) (name : ModuleName) : Prop where
  fileName_le : (fileName name.stem).utf8ByteSize ≤ Files.nameLimit
  modulePath_le : (d.modulePath name).text.utf8ByteSize ≤ Files.pathLimit

instance : Decidable (d.HasRoomFor name) :=
  decidable_of_iff ((fileName name.stem).utf8ByteSize ≤ Files.nameLimit ∧
      (d.modulePath name).text.utf8ByteSize ≤ Files.pathLimit)
    ⟨fun ⟨hfile, hpath⟩ => ⟨hfile, hpath⟩, fun h => ⟨h.fileName_le, h.modulePath_le⟩⟩

/-! ## The texts in a directory -/

/-- Under each plain name there is the sealed text that is held, or nothing; nothing else lies in
the directory but the file of the package. -/
structure Holds (d : ModuleDirectory) (loc : Location) (files : Files)
    (held : ModuleName → Option String) : Prop where
  prepared : d.IsPrepared files
  leads : files.Leads d.path loc
  path_ne : d.path.text ≠ ""
  takesFiles : files.TakesFiles d.path
  plain : ∀ {name}, (held name).isSome → name.IsPlain
  node_eq : ∀ {name}, name.IsPlain → files.node? (loc ++ [fileName name.stem]) =
    (held name).map fun text => .file (sealText name text).toUTF8
  listed : ∀ {file}, loc ++ [file] ∈ files.nodes.keys →
    file = fileName ModuleName.packageStem ∨ ∃ name, (held name).isSome ∧ file = fileName name.stem

theorem childLocation_modulePath (h : files.Leads d.path loc) (hname : name.IsPlain)
    (hroom : d.HasRoomFor name) :
    Files.childLocation d.path loc (fileName name.stem) = .ok (loc ++ [fileName name.stem]) := by
  have hnull : '\x00' ∉ (fileName name.stem).toList := by
    have hsource : ".rs".toList = ['.', 'r', 's'] := by decide
    rw [fileName, hname.stem_eq, String.toList_append, hsource]
    exact List.not_mem_append (hname.not_mem (by decide)) (by decide)
  exact h.childLocation_eq hnull hroom.fileName_le hroom.modulePath_le

/-- What is held under a name is found, and nothing if no text is held. -/
theorem Holds.lookup (h : d.Holds loc files held) (hname : name.IsPlain)
    (hroom : d.HasRoomFor name) :
    d.lookup files name = .ofText? name (.file (d.modulePath name)) (held name) := by
  have hfile := isFileName_source (slash_not_mem_of_isPlain hname)
  have hchild := childLocation_modulePath h.leads hname hroom
  have hnode := h.node_eq hname
  unfold ModuleDirectory.lookup
  rcases htext : held name with _ | text
  · rw [htext, Option.map_none] at hnode
    have hread : files.readText (d.modulePath name) = .error .missing :=
      h.leads.readText_of_none hfile hchild hnode
    simp only [hread, Lookup.ofText?]
  · rw [htext, Option.map_some] at hnode
    have hread : files.readText (d.modulePath name) = .ok (sealText name text) :=
      (h.leads.readText_eq_ok hfile).mpr
        ⟨hchild, _, hnode, dif_pos (sealText name text).isValidUTF8⟩
    have hopens := readSealed_sealText text hname.lineFeed_not_mem_text
    simp only [hread, hopens, Lookup.ofText?]

/-- The modules that are listed are those with a text. -/
theorem Holds.list (h : d.Holds loc files held) :
    ∃ names, d.list files = .ok (sortedNames names) ∧
      ∀ name, name ∈ names ↔ (held name).isSome := by
  obtain ⟨entries, hentries, hmem⟩ := h.leads.exists_entries h.path_ne
  refine ⟨entries.filterMap fun entry => nameOfFile? entry.1, ?_, fun name => ?_⟩
  · simp only [ModuleDirectory.list, hentries]
  · rw [List.mem_filterMap]
    constructor
    · rintro ⟨⟨file, node⟩, hentry, hfile⟩
      rcases h.listed ((hmem file).mpr ⟨node, hentry⟩) with rfl | ⟨other, hother, rfl⟩
      · rw [nameOfFile?_packageStem] at hfile
        cases hfile
      · rw [nameOfFile?_fileName (h.plain hother)] at hfile
        cases hfile
        exact hother
    · intro hsome
      have hname := h.plain hsome
      obtain ⟨text, htext⟩ := Option.isSome_iff_exists.mp hsome
      have hnode := h.node_eq hname
      rw [htext, Option.map_some] at hnode
      have hkey := Files.mem_keys_of_node? (List.append_ne_nil_of_right_ne_nil _ (by simp)) hnode
      obtain ⟨node, hentry⟩ := (hmem _).mp hkey
      exact ⟨_, hentry, nameOfFile?_fileName hname⟩

/-- The file of a module can be written. -/
theorem Holds.exists_writeText (h : d.Holds loc files held) (hname : name.IsPlain)
    (hroom : d.HasRoomFor name) (text : String) :
    ∃ after, d.writeText files (d.modulePath name) text = .ok after := by
  have hchild := childLocation_modulePath h.leads hname hroom
  have hnode : files.node? (loc ++ [fileName name.stem]) ≠ some .directory := by
    rw [h.node_eq hname]
    cases held name <;> simp
  exact ⟨_, h.leads.replaceFile (isFileName_source (slash_not_mem_of_isPlain hname)) hchild
    h.takesFiles hnode⟩

/-- A sealed text that is written replaces what is held under its name, and nothing else. -/
theorem Holds.writeText (h : d.Holds loc files held) (hname : name.IsPlain)
    (hwrite : d.writeText files (d.modulePath name) (sealText name text) = .ok after) :
    d.Holds loc after (Function.update held name (some text)) := by
  have hslash := slash_not_mem_of_isPlain hname
  have hprepared := h.prepared.writeText hslash (stem_ne_of_isPlain hname) hwrite
  obtain ⟨-, hnode, rfl⟩ := h.leads.replaceFile_eq (isFileName_source hslash) hwrite
  have hkeeps : files.KeepsDirectories
      (files.put (loc ++ [fileName name.stem]) (.file (sealText name text).toUTF8)) :=
    Files.keepsDirectories_put (.inr hnode)
  refine ⟨hprepared, hkeeps.leads h.leads, h.path_ne, hkeeps.takesFiles h.takesFiles, ?_, ?_, ?_⟩
  · intro other hother
    by_cases hsame : other = name
    · exact hsame ▸ hname
    · rw [Function.update_of_ne hsame] at hother
      exact h.plain hother
  · intro other hother
    rw [Files.node?_put]
    by_cases hsame : other = name
    · rw [hsame, if_pos ⟨by simp, rfl⟩, Function.update_self, Option.map_some]
    · rw [if_neg, Function.update_of_ne hsame, h.node_eq hother]
      rintro ⟨-, hloc⟩
      have hfile : fileName other.stem = fileName name.stem :=
        List.singleton_inj.mp (List.append_cancel_left hloc)
      exact hsame (hother.stem_injective hname (fileName_injective hfile))
  · intro file hkey
    rcases Table.mem_keys_insert.mp hkey with hloc | hold
    · have hfile : file = fileName name.stem :=
        List.singleton_inj.mp (List.append_cancel_left hloc)
      exact .inr ⟨name, by simp, hfile⟩
    · refine (h.listed hold).imp_right ?_
      rintro ⟨other, hother, hfile⟩
      refine ⟨other, ?_, hfile⟩
      by_cases hsame : other = name
      · simp [hsame]
      · rwa [Function.update_of_ne hsame]

/-- A commit succeeds. -/
theorem Holds.commit (h : d.Holds loc files held) (hname : name.IsPlain)
    (hroom : d.HasRoomFor name) (text : String) :
    ∃ after, d.commit files name text =
        (.ok ⟨name, text, .file (d.modulePath name)⟩, after) ∧
      d.Holds loc after (Function.update held name (some text)) := by
  obtain ⟨after, hwrite⟩ := h.exists_writeText hname hroom (sealText name text)
  have hafter := h.writeText hname hwrite
  refine ⟨after, ?_, hafter⟩
  rw [commit_of_writeText h.prepared.prepare hwrite, hafter.lookup hname hroom,
    Function.update_self, Lookup.ofText?, Store.imported]

theorem prepare_of_openAt (h : openAt p files = (.ok d, opened)) :
    d = ⟨p⟩ ∧ d.prepare files = (opened, none) := by
  unfold openAt at h
  dsimp only at h
  rcases hprepare : prepare ⟨p⟩ files with ⟨made, _ | fault⟩
  · rw [hprepare] at h
    cases h
    exact ⟨rfl, hprepare⟩
  · rw [hprepare] at h
    cases h

/-- Preparing a directory without the file of the package writes that file. -/
theorem writeText_of_prepare (hleads : files.Leads d.path loc)
    (hnone : files.node? (loc ++ [fileName ModuleName.packageStem]) = none)
    (h : d.prepare files = (opened, none)) :
    d.writeText files d.initializerPath initializer = .ok opened := by
  have hfile : files.isFile d.initializerPath = false :=
    hleads.isFile_of_none (isFileName_source slash_not_mem_packageStem) hnone
  unfold prepare at h
  rw [hleads.makeDirectories] at h
  dsimp only at h
  rw [hfile, if_neg Bool.false_ne_true] at h
  rcases hwrite : d.writeText files d.initializerPath initializer with fault | written
  · rw [hwrite] at h
    cases h
  · rw [hwrite] at h
    cases h
    rfl

/-- Opening an empty directory leaves nothing in it but the file of the package. -/
theorem holds_openAt (hempty : files.entries p = .ok [])
    (hopen : openAt p files = (.ok d, opened)) : ∃ loc, d.Holds loc opened fun _ => none := by
  obtain ⟨hp, loc, hleads⟩ := Files.leads_of_entries hempty
  have hnone : ∀ file, loc ++ [file] ∉ files.nodes.keys := by
    intro file hkey
    obtain ⟨entries, hentries, hmem⟩ := hleads.exists_entries hp
    rw [hempty] at hentries
    cases hentries
    obtain ⟨node, hentry⟩ := (hmem file).mp hkey
    exact List.not_mem_nil hentry
  obtain ⟨rfl, hprepare⟩ := prepare_of_openAt hopen
  have hwrite := writeText_of_prepare hleads (Files.node?_of_not_mem_keys (hnone _)) hprepare
  obtain ⟨-, hnode, hopened⟩ :=
    hleads.replaceFile_eq (isFileName_source slash_not_mem_packageStem) hwrite
  have hkeeps : files.KeepsDirectories opened := hopened ▸ Files.keepsDirectories_put (.inr hnode)
  refine ⟨loc, isPrepared_of_prepare hprepare, hkeeps.leads hleads, hp,
    hkeeps.takesFiles (Files.takesFiles_of_replaceFile hwrite), nofun, ?_, ?_⟩
  · intro name hname
    rw [hopened, Files.node?_put, if_neg, Option.map_none]
    · exact Files.node?_of_not_mem_keys (hnone _)
    · rintro ⟨-, hloc⟩
      have hfile : fileName name.stem = fileName ModuleName.packageStem :=
        List.singleton_inj.mp (List.append_cancel_left hloc)
      exact stem_ne_of_isPlain hname (fileName_injective hfile)
  · intro file hkey
    rw [hopened] at hkey
    rcases Table.mem_keys_insert.mp hkey with hloc | hold
    · exact .inl (List.singleton_inj.mp (List.append_cancel_left hloc))
    · exact absurd hold (hnone file)

end ModuleDirectory

/-! ## Both stores -/

namespace Store

open StoreCall

theorem directory_represents (d : ModuleDirectory) (loc : Location) :
    (directory d).Represents (fun name => name.IsPlain ∧ d.HasRoomFor name)
      (fun name => .file (d.modulePath name)) (d.Holds loc) where
  load_eq hfiles hname := directory_load.trans (hfiles.lookup hname.1 hname.2)
  commit_eq hfiles hname text := by
    rw [directory_commit]
    exact hfiles.commit hname.1 hname.2 text
  list_eq hfiles := hfiles.list

variable {d : ModuleDirectory} {p : Path} {files opened : Files} {calls : List StoreCall}

/-- A store in memory and one in a directory that was empty answer the same calls on plain names
alike, up to where the modules are stored.  A module has the text that was committed last under its
name, and commits under other names do not change what is found. -/
theorem directory_answers_eq (hempty : files.entries p = .ok [])
    (hopen : ModuleDirectory.openAt p files = (.ok d, opened))
    (hcalls : ∀ call ∈ calls, call.Names fun name => name.IsPlain ∧ d.HasRoomFor name) :
    (directory d).answers opened calls =
        (memory.answers .empty calls).map (.storedIn fun name => .file (d.modulePath name)) ∧
      ∀ name : ModuleName, name.IsPlain → d.HasRoomFor name →
        memory.load (memory.after .empty calls) name =
          .ofText? name .memory (lastText? calls name) ∧
        (directory d).load ((directory d).after opened calls) name =
          .ofText? name (.file (d.modulePath name)) (lastText? calls name) ∧
        ∀ (other : ModuleName) (text : String),
          other.IsPlain → d.HasRoomFor other → other ≠ name →
          let more := calls ++ [StoreCall.commit other text]
          memory.load (memory.after .empty more) name =
              memory.load (memory.after .empty calls) name ∧
            (directory d).load ((directory d).after opened more) name =
              (directory d).load ((directory d).after opened calls) name := by
  obtain ⟨loc, hopened⟩ := ModuleDirectory.holds_openAt hempty hopen
  have hnothing : SealedTable.Holds .empty fun _ => none := fun _ => rfl
  have hmemory : memory.Represents (fun name => name.IsPlain ∧ d.HasRoomFor name)
      (fun _ => .memory) SealedTable.Holds :=
    memory_represents.mono fun hname => hname.1.lineFeed_not_mem_text
  have hdirectory := directory_represents d loc
  refine ⟨hdirectory.answers_eq hmemory hopened hnothing hcalls, fun name hname hroom => ?_⟩
  refine ⟨hmemory.load_after hnothing hcalls ⟨hname, hroom⟩,
    hdirectory.load_after hopened hcalls ⟨hname, hroom⟩, fun other text hother hotherRoom hne => ?_⟩
  exact ⟨hmemory.load_after_commit hnothing hcalls ⟨hname, hroom⟩ ⟨hother, hotherRoom⟩ hne,
    hdirectory.load_after_commit hopened hcalls ⟨hname, hroom⟩ ⟨hother, hotherRoom⟩ hne⟩

/-- A tree with an empty directory right below the root. -/
def bareTree : Files := .withDirectories [["gen"]]

/-- Some calls: one stem is a keyword, one is a number, and a text that is committed is sealed. -/
def someCalls : List StoreCall :=
  [.commit ⟨"Acme"⟩ "", .load ⟨"type"⟩, .commit ⟨"7"⟩ "\n", .commit ⟨"Acme"⟩ (sealText ⟨"7"⟩ "\n"),
    .list]

/-- After these calls both stores have the text that was committed second, and the same after one
more commit under another name. -/
theorem directory_answers_eq_some :
    let d : ModuleDirectory := ⟨⟨"/gen"⟩⟩
    let text := sealText ⟨"7"⟩ "\n"
    ∃ opened, bareTree.entries d.path = .ok [] ∧
      ModuleDirectory.openAt d.path bareTree = (.ok d, opened) ∧
      (∀ call ∈ someCalls, call.Names fun name => name.IsPlain ∧ d.HasRoomFor name) ∧
      (directory d).answers opened someCalls =
        (memory.answers .empty someCalls).map (.storedIn fun name => .file (d.modulePath name)) ∧
      memory.load (memory.after .empty someCalls) ⟨"Acme"⟩ = .hit ⟨⟨"Acme"⟩, text, .memory⟩ ∧
      (directory d).load ((directory d).after opened someCalls) ⟨"Acme"⟩ =
        .hit ⟨⟨"Acme"⟩, text, .file ⟨"/gen/Acme.rs"⟩⟩ ∧
      (directory d).load ((directory d).after opened (someCalls ++ [StoreCall.commit ⟨"type"⟩ ""]))
        ⟨"Acme"⟩ = .hit ⟨⟨"Acme"⟩, text, .file ⟨"/gen/Acme.rs"⟩⟩ := by
  intro d text
  have hempty : bareTree.entries d.path = .ok [] := by decide
  have hopen : ModuleDirectory.openAt d.path bareTree = (.ok d, (d.prepare bareTree).1) :=
    ModuleDirectory.openAt_of_prepare (by decide)
  have hacme : ModuleName.IsPlain ⟨"Acme"⟩ ∧ d.HasRoomFor ⟨"Acme"⟩ := by
    decide
  have htype : ModuleName.IsPlain ⟨"type"⟩ ∧ d.HasRoomFor ⟨"type"⟩ := by
    decide
  have hseven : ModuleName.IsPlain ⟨"7"⟩ ∧ d.HasRoomFor ⟨"7"⟩ := by
    decide
  have hcalls : ∀ call ∈ someCalls, call.Names fun name => name.IsPlain ∧ d.HasRoomFor name := by
    simp only [someCalls, List.forall_mem_cons, StoreCall.Names]
    exact ⟨hacme, htype, hseven, hacme, trivial, nofun⟩
  have hlast : lastText? someCalls ⟨"Acme"⟩ = some text := rfl
  obtain ⟨hanswers, hload⟩ := directory_answers_eq hempty hopen hcalls
  obtain ⟨hmemory, hdirectory, hframe⟩ := hload _ hacme.1 hacme.2
  rw [hlast] at hmemory hdirectory
  have hother := (hframe _ "" htype.1 htype.2 (by decide)).2
  have hfile : d.modulePath ⟨"Acme"⟩ = ⟨"/gen/Acme.rs"⟩ := by decide
  rw [hdirectory, hfile] at hother
  rw [hfile] at hdirectory
  exact ⟨_, hempty, hopen, hcalls, hanswers, hmemory, hdirectory, hother⟩

/-- The stem of a name of two segments may be plain, but then a directory lists another name. -/
theorem directory_answers_ne_of_segments :
    let d : ModuleDirectory := ⟨⟨"/gen"⟩⟩
    let name : ModuleName := ⟨"a::x"⟩
    let calls : List StoreCall := [.commit name "", .list]
    ∃ opened, bareTree.entries d.path = .ok [] ∧
      ModuleDirectory.openAt d.path bareTree = (.ok d, opened) ∧
      name.stem = "x" ∧ ModuleName.IsPlain ⟨"x"⟩ ∧ d.HasRoomFor name ∧
      memory.list (memory.after .empty [.commit name ""]) = .ok [name] ∧
      (directory d).list ((directory d).after opened [.commit name ""]) = .ok [⟨"x"⟩] ∧
      (directory d).answers opened calls ≠
        (memory.answers .empty calls).map (.storedIn fun name => .file (d.modulePath name)) := by
  intro d name calls
  have hmemory : memory.list (memory.after .empty [.commit name ""]) = .ok [name] := by
    decide
  have hdirectory : (directory d).list
      ((directory d).after (d.prepare bareTree).1 [.commit name ""]) = .ok [⟨"x"⟩] := by
    decide
  refine ⟨_, by decide, ModuleDirectory.openAt_of_prepare (by decide),
    by decide, by decide, by decide, hmemory, hdirectory, fun heq => ?_⟩
  have hlisted : (directory d).list ((directory d).after _ [.commit name ""]) =
      memory.list (memory.after .empty [.commit name ""]) :=
    StoreAnswer.listed.inj (List.cons.inj (List.cons.inj heq).2).1
  rw [hdirectory, hmemory] at hlisted
  exact absurd hlisted (by decide)

end Store

end Typelib
