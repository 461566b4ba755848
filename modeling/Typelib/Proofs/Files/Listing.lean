import Typelib.Proofs.Files.Writes

/-!
# What lies in a directory

The entries of a directory are the nodes one name below its location (`Leads.exists_entries`), and a
name that is not among them leads to nothing (`node?_of_not_mem_keys`).  A file whose path is not
too long is where its name says (`Leads.childLocation_eq`), so it can be replaced unless a directory
is in its place (`Leads.replaceFile`).
-/

namespace Typelib

/-! ## File names -/

namespace Path

variable {base : Path} {name stem : String} {c : Char}

/-- A file name that ends in a dot and the extension has what stands before as its stem. -/
theorem atLastDot_source (h : stem ≠ "") : atLastDot (stem ++ ".rs") = some (stem, "rs") := by
  have hsource : ".rs".toList = ['.', 'r', 's'] := by decide
  have hdots : stem ++ ".rs" ≠ ".." := by
    intro heq
    have hlast := congrArg (fun s => s.toList.getLast?) heq
    simp [hsource] at hlast
  have hbackwards : (stem ++ ".rs").toList.reverse = 's' :: 'r' :: '.' :: stem.toList.reverse := by
    simp [hsource]
  obtain ⟨c, rest, hc⟩ := List.exists_cons_of_ne_nil
    (mt List.reverse_eq_nil_iff.mp (mt String.toList_eq_nil_iff.mp h))
  have hstem : String.ofList (c :: rest).reverse = stem := by
    rw [← hc, List.reverse_reverse, String.ofList_toList]
  have hending : ('s' :: 'r' :: '.' :: c :: rest).takeWhile (· ≠ '.') = ['s', 'r'] := by simp
  have hrest : ('s' :: 'r' :: '.' :: c :: rest).dropWhile (· ≠ '.') = '.' :: c :: rest := by simp
  rw [atLastDot, hbackwards, hc, hending, hrest]
  dsimp only
  rw [if_neg hdots, hstem]
  rfl

/-- A name that is taken apart is put together of its parts again. -/
theorem eq_of_atLastDot {ending : String} (h : atLastDot name = some (stem, ending)) :
    name = stem ++ "." ++ ending ∧ stem ≠ "" := by
  unfold atLastDot at h
  dsimp only at h
  split at h
  · rename_i dot c rest hdrop
    split at h
    · cases h
    · cases h
      have hdot := List.head?_dropWhile_not (· ≠ '.') name.toList.reverse
      rw [hdrop] at hdot
      obtain rfl : dot = '.' := by simpa using hdot
      have hsplit := List.takeWhile_append_dropWhile (p := (· ≠ '.')) (l := name.toList.reverse)
      rw [hdrop] at hsplit
      have hname := congrArg List.reverse hsplit
      rw [List.reverse_reverse] at hname
      exact ⟨String.toList_injective (hname.symm.trans (by simp)), by simp⟩
  · cases h

theorem extension?_source (h : stem ≠ "") : extension? (stem ++ ".rs") = some "rs" := by
  rw [extension?, atLastDot_source h, Option.map_some]

theorem stemOf_source (h : stem ≠ "") : stemOf (stem ++ ".rs") = stem := by
  rw [stemOf, atLastDot_source h, Option.map_some, Option.getD_some]

theorem mem_text_child (hc : c ∈ (base.child name).text.toList) :
    c ∈ base.text.toList ∨ c = '/' ∨ c ∈ name.toList := by
  unfold child join at hc
  split at hc
  · exact .inr (.inr hc)
  · split at hc
    · rw [String.toList_append, List.mem_append] at hc
      exact hc.imp_right .inr
    · have hslash : "/".toList = ['/'] := by decide
      simpa [hslash, or_assoc] using hc

end Path

namespace Files

variable {fs after : Files} {p directory : Path} {loc : Location} {name : String}
  {content : ByteArray} {node : Node} {listed : List (String × Node)}

/-! ## Entries -/

theorem nameIn_eq_some_iff {l : Location} : nameIn loc l = some name ↔ l = loc ++ [name] := by
  unfold nameIn
  constructor
  · intro h
    split at h
    · rename_i hloc
      rw [← hloc, List.dropLast_append_getLast? name h]
    · cases h
  · rintro rfl
    simp

/-- A path that has entries leads to a directory. -/
theorem leads_of_entries (h : fs.entries p = .ok listed) :
    p.text ≠ "" ∧ ∃ loc, fs.Leads p loc := by
  unfold entries at h
  split at h
  · cases h
  · cases h
  · rename_i loc hfind
    obtain ⟨hlocate, hnode⟩ := find_eq_directory_iff.mp hfind
    have hp := text_ne_of_locate hlocate
    exact ⟨hp, loc, fun _ => hlocate, fun hempty => absurd hempty hp, hnode⟩

/-- A directory that is missing has no entries. -/
theorem find_of_entries (h : fs.entries p = .error .missing) : fs.find p = .error .missing := by
  unfold entries at h
  split at h
  · rename_i hfind
    cases h
    exact hfind
  · cases h
  · cases h

/-- The entries of a directory are the nodes one name below it. -/
theorem Leads.exists_entries (h : fs.Leads p loc) (hp : p.text ≠ "") :
    ∃ listed, fs.entries p = .ok listed ∧
      ∀ name, loc ++ [name] ∈ fs.nodes.keys ↔ ∃ node, (name, node) ∈ listed := by
  have hfind : fs.find p = .ok (loc, .directory) :=
    find_eq_directory_iff.mpr ⟨h.locate hp, h.directory⟩
  refine ⟨fs.nodes.entries.filterMap fun entry =>
    (nameIn loc entry.1).map fun name => (name, entry.2), by simp only [entries, hfind],
    fun name => ?_⟩
  simp only [Table.keys, List.mem_map, List.mem_filterMap, Option.map_eq_some_iff, Prod.mk.injEq,
    nameIn_eq_some_iff]
  constructor
  · rintro ⟨⟨l, node⟩, hmem, hl⟩
    exact ⟨node, _, hmem, name, hl, rfl, rfl⟩
  · rintro ⟨node, entry, hmem, other, hl, rfl, -⟩
    exact ⟨entry, hmem, hl⟩

theorem node?_of_not_mem_keys (h : loc ++ [name] ∉ fs.nodes.keys) :
    fs.node? (loc ++ [name]) = none := by
  have hroot : loc ++ [name] ≠ [] := by simp
  rw [node?, if_neg hroot]
  rcases hnode : fs.nodes.get? (loc ++ [name]) with _ | node
  · rfl
  · exact absurd (Table.contains_iff.mp (by simp [Table.contains, hnode])) h

theorem mem_keys_of_node? {l : Location} (hl : l ≠ []) (h : fs.node? l = some node) :
    l ∈ fs.nodes.keys := by
  rw [node?, if_neg hl] at h
  exact Table.contains_iff.mp (by simp [Table.contains, h])

theorem not_mem_keys_of_node? {l : Location} (h : fs.node? l = none) : l ∉ fs.nodes.keys := by
  intro hmem
  obtain ⟨node, hnode⟩ := Option.isSome_iff_exists.mp (Table.contains_iff.mpr hmem)
  unfold node? at h
  split at h
  · cases h
  · rw [hnode] at h
    cases h

/-! ## Files of a directory -/

theorem Leads.null_not_mem (h : fs.Leads p loc) : '\x00' ∉ p.text.toList := by
  by_cases hp : p.text = ""
  · rw [hp]
    decide
  · exact (isWithinLimits_of_locate (h.locate hp)).1

/-- The file of a name is where the name says if neither the name nor its path is too long. -/
theorem Leads.childLocation_eq (h : fs.Leads p loc) (hnull : '\x00' ∉ name.toList)
    (hname : name.utf8ByteSize ≤ nameLimit)
    (hpath : (p.child name).text.utf8ByteSize ≤ pathLimit) :
    childLocation p loc name = .ok (loc ++ [name]) := by
  have hmalformed : '\x00' ∉ (p.child name).text.toList := by
    intro hmem
    rcases Path.mem_text_child hmem with hbase | hslash | hchild
    · exact h.null_not_mem hbase
    · exact absurd hslash (by decide)
    · exact hnull hchild
  rw [childLocation, if_neg hmalformed, if_neg (Nat.not_lt.mpr hpath),
    if_neg (Nat.not_lt.mpr hname)]

/-- A file of a directory is replaced unless a directory is in its place. -/
theorem Leads.replaceFile (h : fs.Leads p loc) (hname : IsFileName name)
    (hchild : childLocation p loc name = .ok (loc ++ [name])) (htakes : fs.TakesFiles directory)
    (hnode : fs.node? (loc ++ [name]) ≠ some .directory) :
    fs.replaceFile directory (p.child name) content =
      .ok (fs.put (loc ++ [name]) (.file content)) := by
  rw [htakes.replaceFile, writeFile_eq_ok]
  exact ⟨_, (h.locate_child hname).trans hchild, hnode, Path.endsWithSlash_child hname, rfl⟩

/-- Where there is nothing, no file is read. -/
theorem Leads.readText_of_none (h : fs.Leads p loc) (hname : IsFileName name)
    (hchild : childLocation p loc name = .ok (loc ++ [name]))
    (hnode : fs.node? (loc ++ [name]) = none) :
    fs.readText (p.child name) = .error .missing := by
  simp only [readText, readBytes, find, (h.locate_child hname).trans hchild, hnode]

/-- Where there is nothing, there is no file. -/
theorem Leads.isFile_of_none (h : fs.Leads p loc) (hname : IsFileName name)
    (hnode : fs.node? (loc ++ [name]) = none) : fs.isFile (p.child name) = false := by
  unfold isFile find
  rw [h.locate_child hname]
  rcases hchild : childLocation p loc name with fault | l
  · rfl
  · obtain rfl := eq_of_childLocation hchild
    simp only [hnode]

end Files

end Typelib
