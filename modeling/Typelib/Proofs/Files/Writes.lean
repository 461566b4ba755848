import Typelib.Proofs.Files.Basic

/-!
# Writing files of some names

Directories may lie anywhere in a tree, and one directory may go by several paths.  A change that
`WritesOnly` files of some names keeps the directories and leaves every file of another name as it
is, wherever it lies.  Making directories writes no file at all (`writesOnly_makeDirectories`), and
replacing a file of a directory writes one of its name (`writesOnly_replaceFile`).  What a path of
a file in a directory reads is a matter of the file at its location (`Leads.readText_iff`).
-/

namespace Typelib

namespace Files

variable {fs after : Files} {p directory : Path} {loc : Location} {name text : String}
  {names : List String} {content : ByteArray}

/-- The directories are kept, and no file comes, goes or changes unless it has one of some names. -/
structure WritesOnly (names : List String) (before after : Files) : Prop
    extends KeepsDirectories before after where
  file_iff : ∀ {loc name content}, name ∉ names →
    (after.node? (loc ++ [name]) = some (.file content) ↔
      before.node? (loc ++ [name]) = some (.file content))

theorem KeepsDirectories.trans {made : Files} (h : fs.KeepsDirectories made)
    (h' : made.KeepsDirectories after) : fs.KeepsDirectories after where
  current := h'.current.trans h.current
  directory hl := h'.directory (h.directory hl)

theorem WritesOnly.refl (names : List String) (fs : Files) : WritesOnly names fs fs where
  current := rfl
  directory h := h
  file_iff _ := Iff.rfl

theorem WritesOnly.trans {made : Files} (h : WritesOnly names fs made)
    (h' : WritesOnly names made after) : WritesOnly names fs after where
  toKeepsDirectories := h.toKeepsDirectories.trans h'.toKeepsDirectories
  file_iff hname := (h'.file_iff hname).trans (h.file_iff hname)

theorem WritesOnly.mono {more : List String} (h : WritesOnly names fs after)
    (hmore : names ⊆ more) : WritesOnly more fs after where
  toKeepsDirectories := h.toKeepsDirectories
  file_iff hname := h.file_iff fun hmem => hname (hmore hmem)

/-! ## Making directories -/

theorem writesOnly_put_directory (names : List String) (h : fs.node? loc = none) :
    WritesOnly names fs (fs.put loc .directory) where
  toKeepsDirectories := keepsDirectories_put (.inl rfl)
  file_iff {l name content} _ := by
    rw [node?_put]
    split
    · rename_i hsame
      rw [hsame.2, h]
      simp
    · rfl

theorem writesOnly_makeDirectory (names : List String) (h : fs.makeDirectory p = .ok after) :
    WritesOnly names fs after := by
  unfold makeDirectory at h
  split at h
  · cases h
  · split at h
    · cases h
    · rename_i hnode
      cases h
      exact writesOnly_put_directory names hnode

theorem writesOnly_settle (names : List String) (h : fs.settle p = .ok after) :
    WritesOnly names fs after := by
  unfold settle at h
  split at h
  · rename_i hmake
    cases h
    exact writesOnly_makeDirectory names hmake
  · split at h
    · cases h
      exact .refl names fs
    · cases h

theorem writesOnly_makeBelow (names : List String) (fs : Files) (p : Path) (above : List Path) :
    WritesOnly names fs (fs.makeBelow p above).1 := by
  induction above generalizing p with
  | nil =>
    rw [makeBelow.eq_def]
    split
    · exact .refl names fs
    · split
      · rename_i hsettle
        exact writesOnly_settle names hsettle
      · split <;> exact .refl names fs
  | cons q rest ih =>
    rw [makeBelow.eq_def]
    split
    · exact .refl names fs
    · split
      · rename_i hsettle
        exact writesOnly_settle names hsettle
      · split
        · have habove := ih q
          dsimp only
          rcases hmade : fs.makeBelow q rest with ⟨made, _ | fault⟩
          · rw [hmade] at habove
            dsimp only
            rcases hsettle : made.settle p with fault | done
            · exact habove
            · exact habove.trans (writesOnly_settle names hsettle)
          · rw [hmade] at habove
            exact habove
        · exact .refl names fs

theorem writesOnly_makeDirectories (names : List String) (fs : Files) (p : Path) :
    WritesOnly names fs (fs.makeDirectories p).1 :=
  writesOnly_makeBelow names fs p p.ancestors

/-! ## Replacing files -/

theorem writesOnly_replaceFile (hname : IsFileName name)
    (h : fs.replaceFile directory (p.child name) content = .ok after) :
    WritesOnly [name] fs after := by
  obtain ⟨l, hlocate⟩ := locate_of_writeFile (writeFile_of_replaceFile h)
  obtain ⟨loc, hleads⟩ := leads_of_locate_child hname hlocate
  obtain ⟨-, hnode, rfl⟩ := hleads.replaceFile_eq hname h
  refine ⟨keepsDirectories_put (.inr hnode), fun {l other content} hother => ?_⟩
  rw [node?_put, if_neg]
  rintro ⟨-, hsame⟩
  have hlast : other = name := by simpa using congrArg List.getLast? hsame
  exact hother (List.mem_singleton.mpr hlast)

/-- A file is replaced if its directory is there and no other directory is in its place. -/
theorem replaceFile_of_find {l : Location} (habsolute : directory.isAbsolute = true)
    (hdirectory : fs.find directory = .ok (l, .directory)) (hlocate : fs.locate p = .ok loc)
    (hnode : fs.node? loc ≠ some .directory) (hslash : p.endsWithSlash = false) :
    fs.replaceFile directory p content = .ok (fs.put loc (.file content)) := by
  have hjoin (base : Path) : base.join directory = directory := by
    rw [Path.join, if_pos habsolute]
  have hwrite : fs.writeFile p content = .ok (fs.put loc (.file content)) :=
    writeFile_eq_ok.mpr ⟨loc, hlocate, hnode, hslash, rfl⟩
  unfold replaceFile
  rw [habsolute]
  split
  · rename_i hfalse
    cases hfalse
  · simp only [hjoin, hdirectory, hwrite]

/-- New files can be made in a directory: its absolute path leads to it. -/
structure TakesFiles (fs : Files) (directory : Path) : Prop where
  current : fs.current = none → directory.isAbsolute = true
  found : ∃ loc, fs.find (((fs.current.map (Path.ofSteps true)).getD ⟨"/"⟩).join directory) =
    .ok (loc, .directory)

theorem find_eq_directory_iff :
    fs.find p = .ok (loc, .directory) ↔
      fs.locate p = .ok loc ∧ fs.node? loc = some .directory := by
  constructor
  · intro h
    unfold find at h
    split at h
    · cases h
    · rename_i l hlocate
      split at h
      · cases h
      · split at h <;> cases h
      · rename_i hnode
        cases h
        exact ⟨hlocate, hnode⟩
  · rintro ⟨hlocate, hnode⟩
    simp only [find, hlocate, hnode]

theorem takesFiles_of_replaceFile (h : fs.replaceFile directory p content = .ok after) :
    fs.TakesFiles directory := by
  unfold replaceFile at h
  split at h
  · cases h
  · rename_i hrelative
    dsimp only at h
    split at h
    · cases h
    · cases h
    · rename_i l hfind
      refine ⟨fun hnone => ?_, l, hfind⟩
      cases habsolute : directory.isAbsolute
      · exact absurd habsolute (hrelative hnone)
      · rfl

/-- Where new files can be made, a file is replaced by writing it. -/
theorem TakesFiles.replaceFile (h : fs.TakesFiles directory) :
    fs.replaceFile directory p content = fs.writeFile p content := by
  obtain ⟨hcurrent, l, hfind⟩ := h
  unfold Files.replaceFile
  split
  · rename_i hnone hrelative
    rw [hcurrent hnone] at hrelative
    cases hrelative
  · simp only [hfind]

theorem KeepsDirectories.takesFiles (h : fs.KeepsDirectories after)
    (htakes : fs.TakesFiles directory) : after.TakesFiles directory := by
  obtain ⟨hcurrent, l, hfind⟩ := htakes
  obtain ⟨hlocate, hnode⟩ := find_eq_directory_iff.mp hfind
  refine ⟨fun hnone => hcurrent (h.current ▸ hnone), l, ?_⟩
  rw [h.current]
  exact find_eq_directory_iff.mpr ⟨h.locate hlocate, h.directory hnode⟩

/-! ## Reading files -/

/-- The text of a file in a directory is that of the node at its location. -/
theorem Leads.readText_eq_ok (h : fs.Leads p loc) (hname : IsFileName name) :
    fs.readText (p.child name) = .ok text ↔
      childLocation p loc name = .ok (loc ++ [name]) ∧
        ∃ content, fs.node? (loc ++ [name]) = some (.file content) ∧
          String.fromUTF8? content = some text := by
  unfold readText readBytes find
  rw [h.locate_child hname]
  rcases hchild : childLocation p loc name with fault | l
  · simp
  · obtain rfl := eq_of_childLocation hchild
    rcases hnode : fs.node? (loc ++ [name]) with _ | _ | content
    · simp [hnode]
    · simp [hnode]
    · rcases hutf8 : String.fromUTF8? content with _ | found <;>
        simp [hnode, hutf8, Path.endsWithSlash_child hname]

/-- A file in a directory reads the same as long as there is the same file at its location. -/
theorem Leads.readText_iff (h : fs.Leads p loc) (hafter : after.Leads p loc)
    (hname : IsFileName name)
    (hfile : ∀ content, after.node? (loc ++ [name]) = some (.file content) ↔
      fs.node? (loc ++ [name]) = some (.file content)) :
    after.readText (p.child name) = .ok text ↔ fs.readText (p.child name) = .ok text := by
  rw [hafter.readText_eq_ok hname, h.readText_eq_ok hname]
  exact and_congr_right fun _ => exists_congr fun content => and_congr_left fun _ => hfile content

end Files

end Typelib
