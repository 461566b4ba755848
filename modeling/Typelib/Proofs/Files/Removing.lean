import Typelib.Proofs.Files.Listing
import Typelib.Proofs.Table

/-!
# Removing files

A tree `without` some locations is what is left when the files there are removed, and what was
`lost` is what was there (`lost_without`).  Removing a file of a directory leaves the tree without
its location (`Leads.removeFile_child`), and if the file is missing there was nothing
(`Leads.node?_of_missing`); so removing several takes just their locations away
(`Leads.removeFiles_eq`).
-/

namespace Typelib

namespace Files

variable {fs after : Files} {p : Path} {loc : Location} {locs more : List Location} {name : String}

/-- The tree without what is at some locations. -/
def without (fs : Files) (locs : List Location) : Files :=
  { fs with nodes := fs.nodes.filterKeys fun l => l ∉ locs }

theorem node?_without {l : Location} :
    (fs.without locs).node? l = if l ≠ [] ∧ l ∈ locs then none else fs.node? l := by
  unfold node? without
  by_cases hroot : l = []
  · simp [hroot]
  · by_cases hmem : l ∈ locs <;> simp [hroot, hmem, Table.get?_filterKeys]

theorem keys_without : (fs.without locs).nodes.keys = fs.nodes.keys.filter fun l => l ∉ locs :=
  Table.keys_filterKeys

theorem without_without : (fs.without locs).without more = fs.without (locs ++ more) := by
  simp [without, Table.filterKeys_filterKeys]

/-- The locations that are no longer there. -/
def lost (before after : Files) : List Location :=
  before.nodes.keys.filter fun l => l ∉ after.nodes.keys

theorem mem_lost {l : Location} : l ∈ fs.lost after ↔ l ∈ fs.nodes.keys ∧ l ∉ after.nodes.keys := by
  simp [lost]

/-- What is lost without some locations are these, as far as they were there. -/
theorem mem_lost_without {l : Location} :
    l ∈ fs.lost (fs.without locs) ↔ l ∈ fs.nodes.keys ∧ l ∈ locs := by
  simp only [mem_lost, keys_without, List.mem_filter, decide_eq_true_eq]
  tauto

/-- As many locations are lost as are taken away, if they are distinct and were there. -/
theorem length_lost_without (hnodup : locs.Nodup) (h : ∀ l ∈ locs, l ∈ fs.nodes.keys) :
    (fs.lost (fs.without locs)).length = locs.length := by
  have hlost : (fs.lost (fs.without locs)).Nodup := fs.nodes.distinct.filter _
  refine ((List.perm_ext_iff_of_nodup hlost hnodup).mpr fun l => ?_).length_eq
  rw [mem_lost_without]
  exact and_iff_right_of_imp (h l)

/-- Where there is nothing, nothing is removed. -/
theorem without_eq_self (h : ∀ l ∈ locs, l ∉ fs.nodes.keys) : fs.without locs = fs := by
  rw [without, Table.filterKeys_eq_self fun key hkey => ?_]
  exact decide_eq_true fun hmem => h key hmem hkey

/-- The directories are kept if none is removed. -/
theorem keepsDirectories_without (h : ∀ l ∈ locs, fs.node? l ≠ some .directory) :
    fs.KeepsDirectories (fs.without locs) where
  current := rfl
  directory {l} hl := by
    rw [node?_without, if_neg fun hmem => h l hmem.2 hl]
    exact hl

/-- A file is removed from where its path leads. -/
theorem removeFile_eq_ok :
    fs.removeFile p = .ok after ↔
      ∃ loc content, fs.find p = .ok (loc, .file content) ∧ after = fs.without [loc] := by
  have herase (l : Location) : fs.nodes.erase l = fs.nodes.filterKeys fun key => key ∉ [l] := by
    simp [Table.erase]
  unfold removeFile without
  rcases hfind : fs.find p with fault | ⟨l, _ | content⟩ <;> simp [herase, eq_comm]

/-- What a path of a file in a directory leads to. -/
theorem Leads.find_child (h : fs.Leads p loc) (hname : IsFileName name) :
    fs.find (p.child name) = (childLocation p loc name).bind fun l =>
      match fs.node? l with
      | none => .error .missing
      | some node => .ok (l, node) := by
  unfold find
  rw [h.locate_child hname]
  rcases hchild : childLocation p loc name with fault | l
  · rfl
  · rcases hnode : fs.node? l with _ | _ | content <;>
      simp [hnode, Except.bind, Path.endsWithSlash_child hname]

/-- A file that is removed from a directory was at its location. -/
theorem Leads.removeFile_child (h : fs.Leads p loc) (hname : IsFileName name)
    (hremove : fs.removeFile (p.child name) = .ok after) :
    after = fs.without [loc ++ [name]] ∧
      ∃ content, fs.node? (loc ++ [name]) = some (.file content) := by
  obtain ⟨l, content, hfind, rfl⟩ := removeFile_eq_ok.mp hremove
  rw [h.find_child hname] at hfind
  rcases hchild : childLocation p loc name with fault | found
  · simp [hchild, Except.bind] at hfind
  · obtain rfl := eq_of_childLocation hchild
    rcases hnode : fs.node? (loc ++ [name]) with _ | node
    · simp [hchild, Except.bind, hnode] at hfind
    · simp only [hchild, Except.bind, hnode] at hfind
      cases hfind
      exact ⟨rfl, content, rfl⟩

theorem childLocation_ne_missing : childLocation p loc name ≠ .error .missing := by
  unfold childLocation
  split
  · simp
  · split
    · simp
    · split <;> simp

/-- If a file that is to be removed is missing, there is nothing at its location. -/
theorem Leads.node?_of_missing (h : fs.Leads p loc) (hname : IsFileName name)
    (hremove : fs.removeFile (p.child name) = .error .missing) :
    fs.node? (loc ++ [name]) = none := by
  have hfind : fs.find (p.child name) = .error .missing := by
    unfold removeFile at hremove
    split at hremove
    · rename_i fault hfind
      cases hremove
      exact hfind
    · cases hremove
    · cases hremove
  rw [h.find_child hname] at hfind
  rcases hchild : childLocation p loc name with fault | l
  · rw [hchild] at hfind
    cases hfind
    exact absurd hchild childLocation_ne_missing
  · obtain rfl := eq_of_childLocation hchild
    rcases hnode : fs.node? (loc ++ [name]) with _ | node
    · rfl
    · simp [hchild, Except.bind, hnode] at hfind

/-! ## Removing several files -/

/-- One step: after it nothing is at the location of the first file. -/
theorem Leads.removeFiles_cons {rest : List Path} (h : fs.Leads p loc) (hname : IsFileName name)
    (hremove : fs.removeFiles (p.child name :: rest) = (after, none)) :
    fs.node? (loc ++ [name]) ≠ some .directory ∧
      (fs.without [loc ++ [name]]).removeFiles rest = (after, none) := by
  rw [removeFiles] at hremove
  split at hremove
  · rename_i removed hfirst
    obtain ⟨rfl, content, hnode⟩ := h.removeFile_child hname hfirst
    exact ⟨by simp [hnode], hremove⟩
  · rename_i hfirst
    have hnode := h.node?_of_missing hname hfirst
    have hkeys := not_mem_keys_of_node? hnode
    rw [without_eq_self (by simpa using hkeys)]
    exact ⟨by simp [hnode], hremove⟩
  · cases hremove

/-- Files of a directory that are removed are taken away, and none of them was a directory. -/
theorem Leads.removeFiles_eq {names : List String} (h : fs.Leads p loc)
    (hnames : ∀ name ∈ names, IsFileName name)
    (hremove : fs.removeFiles (names.map p.child) = (after, none)) :
    after = fs.without (names.map fun name => loc ++ [name]) ∧
      ∀ name ∈ names, fs.node? (loc ++ [name]) ≠ some .directory := by
  induction names generalizing fs with
  | nil =>
    cases hremove
    exact ⟨(without_eq_self (by simp)).symm, by simp⟩
  | cons name rest ih =>
    obtain ⟨hname, hrest⟩ := List.forall_mem_cons.mp hnames
    obtain ⟨hnode, hremoved⟩ := h.removeFiles_cons hname hremove
    have hkeeps : fs.KeepsDirectories (fs.without [loc ++ [name]]) :=
      keepsDirectories_without (by simpa using hnode)
    obtain ⟨rfl, hothers⟩ := ih (hkeeps.leads h) hrest hremoved
    refine ⟨without_without, List.forall_mem_cons.mpr ⟨hnode, fun other hother heq => ?_⟩⟩
    exact hothers other hother (hkeeps.directory heq)

end Files

end Typelib
