import Typelib.Proofs.Files.Names
import Typelib.Proofs.Store.Calls
import Typelib.Proofs.Store.Neighbours

/-!
# What clearing a directory removes

A directory lists a module for every file name that stands for one (`nameOfFile?_eq_some_iff`), and
clearing it removes the files of the stems of the listed names (`removeFiles_of_clear`).  A stem is
what follows the last double colon of a qualified name, so it is the stem of the file that was
listed only if that has no double colon in it and does not start with a colon.  Then clearing
removes the files that were listed, and no other (`ClearsListed`).  A file with such colons in its
name stays, and if another file has its stem, that one is gone instead (`clears_listed_iff`,
`colons_survive`).
-/

namespace Typelib

namespace ModuleDirectory

open ModuleName

variable {d : ModuleDirectory} {files after : Files} {loc : Location} {name : ModuleName}
  {names : List ModuleName} {file : String} {count : Nat}

/-! ## Listing -/

/-- A module can be listed: its name is not empty, not that of the package, and not hidden. -/
structure IsListable (name : ModuleName) : Prop where
  nonempty : name.member ≠ ""
  apart : name.member ≠ packageStem
  shown : name.member.toList.head? ≠ some '.'

/-- The file name that stands for a module is made of its name and the ending. -/
theorem nameOfFile?_eq_some_iff :
    nameOfFile? file = some name ↔ file = fileName name.member ∧ IsListable name := by
  unfold nameOfFile?
  dsimp only
  constructor
  · intro h
    split at h
    · cases h
    · rename_i hending
      split at h
      · cases h
      · rename_i hstem
        cases h
        rw [not_or] at hstem
        obtain ⟨⟨stem, ending⟩, hparts, hsource⟩ := Option.map_eq_some_iff.mp (not_not.mp hending)
        cases hsource
        have hname : Path.stemOf file = stem := by simp [Path.stemOf, hparts]
        obtain ⟨hfile, hne⟩ := Path.eq_of_atLastDot hparts
        rw [hname] at hstem ⊢
        exact ⟨hfile.trans (String.append_assoc ..), hne, hstem.1, hstem.2⟩
  · rintro ⟨rfl, hne, hapart, hshown⟩
    rw [fileName, Path.extension?_source hne, Path.stemOf_source hne, if_neg (not_not.mpr rfl),
      if_neg (not_or.mpr ⟨hapart, hshown⟩)]

/-- Each listable module whose file is in the directory at a location, once. -/
structure IsListing (files : Files) (loc : Location) (names : List ModuleName) : Prop where
  nodup : names.Nodup
  mem_iff : ∀ name, name ∈ names ↔
    loc ++ [fileName name.member] ∈ files.nodes.keys ∧ IsListable name

/-- What a directory lists: nothing if it is missing, or else the modules in it. -/
inductive Lists (d : ModuleDirectory) (files : Files) : List ModuleName → Prop
  | missing (hfind : files.find d.path = .error .missing) : Lists d files []
  | found {loc : Location} {names : List ModuleName} (hpath : d.path.text ≠ "")
      (hleads : files.Leads d.path loc) (hlisting : IsListing files loc names) :
      Lists d files names

/-- A directory that is there lists the modules in it. -/
theorem exists_list (hpath : d.path.text ≠ "") (hleads : files.Leads d.path loc) :
    ∃ names, d.list files = .ok names ∧ IsListing files loc names := by
  obtain ⟨listed, hentries, hlisted⟩ := hleads.exists_entries hpath
  refine ⟨sortedNames (listed.filterMap fun entry => nameOfFile? entry.1),
    by simp only [list, hentries], nodup_sortedNames _, fun name => ?_⟩
  simp only [sortedNames, mem_ascending, List.mem_filterMap, nameOfFile?_eq_some_iff, hlisted]
  constructor
  · rintro ⟨⟨file, node⟩, hmem, rfl, hlistable⟩
    exact ⟨⟨node, hmem⟩, hlistable⟩
  · rintro ⟨⟨node, hmem⟩, hlistable⟩
    exact ⟨_, hmem, rfl, hlistable⟩

theorem lists_of_list (h : d.list files = .ok names) : Lists d files names := by
  unfold list at h
  split at h
  · rename_i listed hentries
    obtain ⟨hpath, loc, hleads⟩ := Files.leads_of_entries hentries
    obtain ⟨found, hlist, hlisting⟩ := exists_list hpath hleads
    simp only [list, hentries] at hlist
    rw [hlist] at h
    cases h
    exact .found hpath hleads hlisting
  · rename_i hentries
    cases h
    exact .missing (Files.find_of_entries hentries)
  · cases h

/-! ## Clearing -/

/-- Where the files are that the listed modules stand for. -/
def sources (d : ModuleDirectory) (files : Files) (names : List ModuleName) : List Location :=
  match files.find d.path with
  | .ok (loc, _) => names.map fun name => loc ++ [fileName name.member]
  | .error _ => []

theorem sources_eq (hpath : d.path.text ≠ "") (hleads : files.Leads d.path loc) :
    d.sources files names = names.map fun name => loc ++ [fileName name.member] := by
  have hfind : files.find d.path = .ok (loc, .directory) :=
    Files.find_eq_directory_iff.mpr ⟨hleads.locate hpath, hleads.directory⟩
  rw [sources, hfind]

/-- A directory in which some modules were listed has been cleared: nothing is listed any more, as
many files as were counted are gone, the file of the package is still there, and so is everything
that was not listed. -/
structure ClearsListed (d : ModuleDirectory) (names : List ModuleName) (count : Nat)
    (files after : Files) : Prop where
  list_eq : d.list after = .ok []
  count_eq : (files.lost after).length = count
  regular : ∀ l ∈ files.lost after, ∃ content, files.node? l = some (.file content)
  initializer : files.isFile d.initializerPath → after.isFile d.initializerPath
  others : ∀ l ∉ d.sources files names, after.node? l = files.node? l

/-- A stem that has a file name has no slash in it. -/
theorem slash_not_mem_stem_of_isFileName (h : IsFileName (fileName name.member)) :
    '/' ∉ name.stem.toList := by
  refine not_mem_stem (by decide) (by decide) fun hmem => h.slash ?_
  rw [fileName, String.toList_append, List.mem_append]
  exact .inl hmem

/-- Clearing removes the files of the stems of the listed names, and counts the names. -/
theorem removeFiles_of_clear (hlist : d.list files = .ok names)
    (hclear : d.clear files = (.ok count, after)) :
    names.length = count ∧ files.removeFiles
      ((names.map fun name => fileName name.stem).map d.path.child) = (after, none) := by
  rw [List.map_map]
  simp only [clear, hlist] at hclear
  rcases hremove : files.removeFiles (names.map d.modulePath) with ⟨removed, _ | fault⟩
  · rw [hremove] at hclear
    cases hclear
    exact ⟨rfl, hremove⟩
  · rw [hremove] at hclear
    cases hclear

/-- A directory that is missing is clear. -/
theorem clearsListed_of_missing (h : files.find d.path = .error .missing) :
    d.ClearsListed [] 0 files files where
  list_eq := by simp only [list, Files.entries, h]
  count_eq := by simp [Files.lost]
  regular l hl := absurd (Files.mem_lost.mp hl).1 (Files.mem_lost.mp hl).2
  initializer := id
  others _ _ := rfl

/-- The files of the stems of some modules. -/
def targets (loc : Location) (names : List ModuleName) : List Location :=
  names.map fun name => loc ++ [fileName name.stem]

section Cleared

variable (hpath : d.path.text ≠ "") (hleads : files.Leads d.path loc)
  (hlisting : IsListing files loc names)

include hpath hleads hlisting

/-- If the files of the stems are removed and nothing is listed then, each stem is the name. -/
theorem stem_eq_of_list_without
    (hkeeps : files.KeepsDirectories (files.without (targets loc names)))
    (hlist : d.list (files.without (targets loc names)) = .ok []) (hname : name ∈ names) :
    name.stem = name.member := by
  obtain ⟨left, hleft, hrest⟩ := exists_list hpath (hkeeps.leads hleads)
  obtain rfl : [] = left := Except.ok.inj (hlist.symm.trans hleft)
  obtain ⟨hkey, hlistable⟩ := (hlisting.mem_iff name).mp hname
  have hgone : loc ++ [fileName name.member] ∈ targets loc names := by
    by_contra hstays
    refine absurd ((hrest.mem_iff name).mpr ⟨?_, hlistable⟩) List.not_mem_nil
    rw [Files.keys_without]
    exact List.mem_filter.mpr ⟨hkey, decide_eq_true hstays⟩
  obtain ⟨other, -, hother⟩ := List.mem_map.mp hgone
  rw [List.append_cancel_left_eq, List.cons.injEq] at hother
  -- the name is a stem, and a stem is its own stem
  have hstem := fileName_injective hother.1
  have hself := stem_stem other
  rw [hstem] at hself
  exact hself

/-- If each stem is the name, removing the files of the stems clears the directory. -/
theorem clearsListed_without
    (hkeeps : files.KeepsDirectories (files.without (targets loc names)))
    (hregular : ∀ name ∈ names, files.node? (loc ++ [fileName name.stem]) ≠ some .directory)
    (hstems : ∀ name ∈ names, name.stem = name.member) :
    d.ClearsListed names names.length files (files.without (targets loc names)) := by
  have hafter := hkeeps.leads hleads
  have htargets : targets loc names = names.map fun name => loc ++ [fileName name.member] :=
    List.map_congr_left fun name hname => by rw [hstems name hname]
  have hkeys : ∀ l ∈ targets loc names, l ∈ files.nodes.keys := by
    rw [htargets]
    intro l hl
    obtain ⟨name, hname, rfl⟩ := List.mem_map.mp hl
    exact ((hlisting.mem_iff name).mp hname).1
  refine ⟨?list, ?count, ?regular, ?initializer, ?others⟩
  case list =>
    obtain ⟨left, hleft, hrest⟩ := exists_list hpath hafter
    rw [hleft, Except.ok.injEq, List.eq_nil_iff_forall_not_mem]
    intro name hname
    obtain ⟨hkey, hlistable⟩ := (hrest.mem_iff name).mp hname
    rw [Files.keys_without, List.mem_filter, decide_eq_true_eq, htargets] at hkey
    exact hkey.2 (List.mem_map_of_mem ((hlisting.mem_iff name).mpr ⟨hkey.1, hlistable⟩))
  case count =>
    have hdistinct : (targets loc names).Nodup := by
      rw [htargets]
      refine hlisting.nodup.map fun a b heq => ?_
      rw [List.append_cancel_left_eq, List.cons.injEq] at heq
      exact congrArg ModuleName.mk (fileName_injective heq.1)
    rw [Files.length_lost_without hdistinct hkeys, targets, List.length_map]
  case regular =>
    intro l hl
    obtain ⟨hkey, htarget⟩ := Files.mem_lost_without.mp hl
    obtain ⟨name, hname, rfl⟩ := List.mem_map.mp htarget
    rcases hnode : files.node? (loc ++ [fileName name.stem]) with _ | _ | content
    · exact absurd hkey (Files.not_mem_keys_of_node? hnode)
    · exact absurd hnode (hregular name hname)
    · exact ⟨content, rfl⟩
  case initializer =>
    have hsame : (files.without (targets loc names)).node? (loc ++ [fileName packageStem]) =
        files.node? (loc ++ [fileName packageStem]) := by
      rw [Files.node?_without, if_neg]
      rintro ⟨-, hgone⟩
      rw [htargets] at hgone
      obtain ⟨name, hname, heq⟩ := List.mem_map.mp hgone
      rw [List.append_cancel_left_eq, List.cons.injEq] at heq
      exact ((hlisting.mem_iff name).mp hname).2.apart (fileName_injective heq.1)
    have hfile : IsFileName (fileName packageStem) := isFileName_source slash_not_mem_packageStem
    exact (hleads.isFile_congr hafter hfile hsame).trans
  case others =>
    intro l hl
    rw [sources_eq hpath hleads, ← htargets] at hl
    rw [Files.node?_without, if_neg fun hgone => hl hgone.2]

end Cleared

/-- What is listed is cleared exactly if no listed name has a double colon in it or starts with a
colon. -/
theorem clears_listed_iff (hfiles : files.IsWellNamed) (hlist : d.list files = .ok names)
    (hclear : d.clear files = (.ok count, after)) :
    d.ClearsListed names count files after ↔
      ∀ name ∈ names, ¬[':', ':'] <:+: ':' :: name.member.toList := by
  obtain ⟨rfl, hremove⟩ := removeFiles_of_clear hlist hclear
  cases lists_of_list hlist with
  | missing hfind =>
    cases hremove
    exact iff_of_true (clearsListed_of_missing hfind) (List.forall_mem_nil _)
  | @found loc names hpath hleads hlisting =>
    have hslash : ∀ name ∈ names, '/' ∉ name.stem.toList := fun name hname =>
      slash_not_mem_stem_of_isFileName
        (hfiles.nodes _ ((hlisting.mem_iff name).mp hname).1 _
          (List.mem_append_right _ List.mem_cons_self))
    obtain ⟨rfl, hregular⟩ := hleads.removeFiles_eq
      (List.forall_mem_map.mpr fun name hname => isFileName_source (hslash name hname)) hremove
    rw [List.forall_mem_map] at hregular
    rw [List.map_map]
    have hkeeps : files.KeepsDirectories (files.without (targets loc names)) :=
      Files.keepsDirectories_without (List.forall_mem_map.mpr hregular)
    simp only [← stem_eq_member_iff]
    exact ⟨fun h name hname => stem_eq_of_list_without hpath hleads hlisting hkeeps h.list_eq hname,
      clearsListed_without hpath hleads hlisting hkeeps hregular⟩

/-- A directory in which there are empty files of some names, below the current one. -/
def filled (names : List String) : Files :=
  ⟨.ofList ((["gen"], .directory) :: names.map fun name => (["gen", name], .file .empty)), some []⟩

/-- Single colons inside of a name do no harm, and files that are not listed stay. -/
theorem clears_listed_single_colon :
    let d : ModuleDirectory := ⟨⟨"gen"⟩⟩
    let files := filled ["mod.rs", "Acme.rs", "a:b.rs", "notes.txt", ".cache.rs"]
    let after := (d.clear files).2
    (files.IsWellNamed ∧ d.list files = .ok [⟨"Acme"⟩, ⟨"a:b"⟩] ∧ d.clear files = (.ok 2, after)) ∧
      d.ClearsListed [⟨"Acme"⟩, ⟨"a:b"⟩] 2 files after := by
  intro d files after
  have hfiles : files.IsWellNamed := ⟨by decide, by decide⟩
  have hlist : d.list files = .ok [⟨"Acme"⟩, ⟨"a:b"⟩] := by decide
  have hclear : d.clear files = (.ok 2, after) := Prod.ext (by decide) rfl
  exact ⟨⟨hfiles, hlist, hclear⟩, (clears_listed_iff hfiles hlist hclear).mpr (by decide)⟩

/-- The file `a::mod.rs` is listed and counted, but it is the file of the package that goes. -/
theorem colons_survive :
    let d : ModuleDirectory := ⟨⟨"gen"⟩⟩
    let files := filled ["mod.rs", "a::mod.rs"]
    let after := (d.clear files).2
    files.IsWellNamed ∧ d.list files = .ok [⟨"a::mod"⟩] ∧ d.clear files = (.ok 1, after) ∧
      d.list after = .ok [⟨"a::mod"⟩] ∧
      files.isFile d.initializerPath ∧ after.isFile d.initializerPath = false ∧
      ¬d.ClearsListed [⟨"a::mod"⟩] 1 files after := by
  intro d files after
  have hlist : d.list after = .ok [⟨"a::mod"⟩] := by decide
  refine ⟨⟨by decide, by decide⟩, by decide,
    Prod.ext (by decide) rfl, hlist, by decide, by decide, fun h => ?_⟩
  rw [h.list_eq] at hlist
  cases hlist

end ModuleDirectory

end Typelib
