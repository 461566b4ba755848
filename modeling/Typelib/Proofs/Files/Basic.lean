import Typelib.Files.Basic
import Typelib.Proofs.Files.Path

/-!
# Files in a directory

Following a path only depends on the directories on the way, so it leads to the same location as
long as they are kept (`KeepsDirectories.locate`).  When a path `Leads` to a directory, the path of
a file in it leads to the location one name further on, if it is not too long
(`Leads.locate_child`); so replacing one file of a directory leaves the others as they were
(`Leads.replaceFile_child`, `Leads.readText_congr`).
-/

namespace Typelib

namespace Files

variable {fs after : Files} {p directory : Path} {loc start : Location} {name : String}
  {content : ByteArray}

/-! ## Following paths -/

theorem enter_eq_ok (h : fs.node? loc = some .directory) :
    fs.enter loc name =
      if nameLimit < name.utf8ByteSize then .error .nameTooLong else .ok (loc.step name) := by
  unfold enter
  rw [h]

theorem directory_of_enter {next : Location} (h : fs.enter loc name = .ok next) :
    fs.node? loc = some .directory := by
  unfold enter at h
  split at h
  · cases h
  · cases h
  · assumption

/-- To follow names is to enter the first and to follow the others from there. -/
theorem follow_cons {rest : List String} :
    fs.follow loc (name :: rest) = (fs.enter loc name).bind fun next => fs.follow next rest := by
  rw [follow]
  rcases hnext : fs.enter loc name with fault | next
  · rfl
  · cases rest with
    | nil => rfl
    | cons other more =>
      rcases hnode : fs.node? next with _ | node
      · simp only [Except.bind, follow, enter, hnode]
      · simp only [Except.bind, hnode]

theorem follow_append {names more : List String} :
    fs.follow loc (names ++ more) =
      (fs.follow loc names).bind fun next => fs.follow next more := by
  induction names generalizing loc with
  | nil => rfl
  | cons name rest ih =>
    rw [List.cons_append, follow_cons, follow_cons]
    rcases fs.enter loc name with fault | next
    · rfl
    · exact ih

/-- A path that leads to a location leads there from the root or the current directory. -/
theorem exists_follow_of_locate (h : fs.locate p = .ok loc) :
    ∃ start, (p.isAbsolute = true ∧ start = [] ∨
      p.isAbsolute = false ∧ fs.current = some start) ∧
      fs.follow start p.components = .ok loc := by
  unfold locate at h
  split at h
  · cases h
  · split at h
    · cases h
    · split at h
      · cases h
      · split at h
        · exact ⟨[], .inl ⟨‹_›, rfl⟩, h⟩
        · split at h
          · exact ⟨_, .inr ⟨by simpa using ‹¬p.isAbsolute = true›, ‹_›⟩, h⟩
          · cases h

theorem text_ne_of_locate (h : fs.locate p = .ok loc) : p.text ≠ "" := by
  intro hempty
  rw [locate, if_pos hempty] at h
  cases h

/-- The text of a path is neither malformed nor too long. -/
def IsWithinLimits (p : Path) : Prop :=
  '\x00' ∉ p.text.toList ∧ p.text.utf8ByteSize ≤ pathLimit

theorem isWithinLimits_of_locate (h : fs.locate p = .ok loc) : IsWithinLimits p := by
  unfold locate at h
  split at h
  · cases h
  · split at h
    · cases h
    · split at h
      · cases h
      · exact ⟨‹_›, Nat.le_of_not_lt ‹_›⟩

/-- A path within the limits leads where its components do. -/
theorem locate_of_follow (hp : p.text ≠ "") (hlimits : IsWithinLimits p)
    (hstart : p.isAbsolute = true ∧ start = [] ∨ p.isAbsolute = false ∧ fs.current = some start)
    (hfollow : fs.follow start p.components = .ok loc) : fs.locate p = .ok loc := by
  unfold locate
  rw [if_neg hp, if_neg hlimits.1, if_neg (Nat.not_lt.mpr hlimits.2)]
  rcases hstart with ⟨habsolute, rfl⟩ | ⟨hrelative, hcurrent⟩
  · rw [if_pos habsolute, hfollow]
  · rw [if_neg (by simp [hrelative]), hcurrent]
    exact hfollow

/-- All directories are still there, and the current one is the same. -/
structure KeepsDirectories (before after : Files) : Prop where
  current : after.current = before.current
  directory : ∀ {loc}, before.node? loc = some .directory → after.node? loc = some .directory

theorem KeepsDirectories.follow {names : List String} (h : fs.KeepsDirectories after)
    (hloc : fs.follow start names = .ok loc) : after.follow start names = .ok loc := by
  induction names generalizing start with
  | nil => exact hloc
  | cons name rest ih =>
    rw [follow_cons] at hloc ⊢
    rcases hnext : fs.enter start name with fault | next
    · rw [hnext] at hloc
      cases hloc
    · rw [hnext] at hloc
      have hstart := directory_of_enter hnext
      rw [enter_eq_ok hstart] at hnext
      rw [enter_eq_ok (h.directory hstart), hnext]
      exact ih hloc

theorem KeepsDirectories.locate (h : fs.KeepsDirectories after) (hloc : fs.locate p = .ok loc) :
    after.locate p = .ok loc := by
  obtain ⟨start, hstart, hfollow⟩ := exists_follow_of_locate hloc
  rw [← h.current] at hstart
  exact locate_of_follow (text_ne_of_locate hloc) (isWithinLimits_of_locate hloc) hstart
    (h.follow hfollow)

/-! ## Putting a node at a location -/

theorem node?_put {node : Node} {l : Location} :
    (fs.put loc node).node? l = if l ≠ [] ∧ l = loc then some node else fs.node? l := by
  unfold node? put
  by_cases hroot : l = []
  · simp [hroot]
  · simp [hroot, Table.get?_insert]

theorem keepsDirectories_put {node : Node}
    (h : node = .directory ∨ fs.node? loc ≠ some .directory) :
    fs.KeepsDirectories (fs.put loc node) where
  current := rfl
  directory {l} hl := by
    rw [node?_put]
    split
    · rename_i hsame
      obtain ⟨-, rfl⟩ := hsame
      rw [h.resolve_right (not_not_intro hl)]
    · exact hl

/-! ## The files of a directory -/

/-- A path leads to the directory at a location; the empty path stands for the current one. -/
structure Leads (fs : Files) (p : Path) (loc : Location) : Prop where
  locate : p.text ≠ "" → fs.locate p = .ok loc
  current : p.text = "" → fs.current = some loc
  directory : fs.node? loc = some .directory

theorem KeepsDirectories.leads (h : fs.KeepsDirectories after) (hleads : fs.Leads p loc) :
    after.Leads p loc where
  locate hne := h.locate (hleads.locate hne)
  current hempty := h.current.trans (hleads.current hempty)
  directory := h.directory hleads.directory

/-- Where the file of a name in a directory is, unless its path is too long or malformed. -/
def childLocation (p : Path) (loc : Location) (name : String) : Except Fault Location :=
  if '\x00' ∈ (p.child name).text.toList then .error .malformed
  else if pathLimit < (p.child name).text.utf8ByteSize then .error .nameTooLong
  else if nameLimit < name.utf8ByteSize then .error .nameTooLong
  else .ok (loc ++ [name])

theorem eq_of_childLocation {l : Location} (h : childLocation p loc name = .ok l) :
    l = loc ++ [name] := by
  unfold childLocation at h
  split at h
  · cases h
  · split at h
    · cases h
    · split at h
      · cases h
      · exact (Except.ok.inj h).symm

theorem step_of_isFileName (h : IsFileName name) : loc.step name = loc ++ [name] := by
  rw [Location.step, if_neg h.dot, if_neg h.dots]

theorem isWithinLimits_of_child (hname : IsFileName name)
    (h : IsWithinLimits (p.child name)) : IsWithinLimits p := by
  obtain ⟨rest, hrest⟩ := Path.exists_text_child_eq_append p hname
  obtain ⟨hmalformed, hlength⟩ := h
  rw [hrest, String.toList_append, List.mem_append, not_or] at hmalformed
  rw [hrest, String.utf8ByteSize_append] at hlength
  exact ⟨hmalformed.1, Nat.le_of_add_right_le hlength⟩

theorem Leads.locate_child (h : fs.Leads p loc) (hname : IsFileName name) :
    fs.locate (p.child name) = childLocation p loc name := by
  have henter : fs.enter loc name =
      if nameLimit < name.utf8ByteSize then .error .nameTooLong else .ok (loc ++ [name]) := by
    rw [enter_eq_ok h.directory, step_of_isFileName hname]
  unfold Files.locate childLocation
  rw [if_neg (Path.text_child_ne hname), ← henter]
  congr 2
  by_cases hempty : p.text = ""
  · rw [Path.child_of_empty hempty hname, Path.isAbsolute_ofName hname, h.current hempty,
      Path.components_ofName hname]
    simp only [Bool.false_eq_true, if_false, follow_cons]
    rcases fs.enter loc name with fault | next <;> rfl
  · have hfollow {start : Location} (hstart : fs.follow start p.components = .ok loc) :
        fs.follow start (p.child name).components = fs.enter loc name := by
      rw [Path.components_child hempty hname, follow_append, hstart]
      simp only [Except.bind, follow_cons]
      rcases fs.enter loc name with fault | next <;> rfl
    rw [Path.isAbsolute_child hempty hname]
    obtain ⟨start, ⟨habsolute, rfl⟩ | ⟨hrelative, hcurrent⟩, hstart⟩ :=
      exists_follow_of_locate (h.locate hempty)
    · rw [if_pos habsolute, hfollow hstart]
    · rw [if_neg (by simp [hrelative]), hcurrent]
      exact hfollow hstart

/-- The text of a file depends on what is at its location only. -/
theorem Leads.readText_congr (h : fs.Leads p loc) (hafter : after.Leads p loc)
    (hname : IsFileName name) (hnode : after.node? (loc ++ [name]) = fs.node? (loc ++ [name])) :
    after.readText (p.child name) = fs.readText (p.child name) := by
  unfold readText readBytes find
  rw [h.locate_child hname, hafter.locate_child hname]
  rcases hchild : childLocation p loc name with fault | l
  · rfl
  · obtain rfl := eq_of_childLocation hchild
    simp only [hnode]

/-- Whether there is a file depends on what is at its location only. -/
theorem Leads.isFile_congr (h : fs.Leads p loc) (hafter : after.Leads p loc)
    (hname : IsFileName name) (hnode : after.node? (loc ++ [name]) = fs.node? (loc ++ [name])) :
    after.isFile (p.child name) = fs.isFile (p.child name) := by
  unfold isFile find
  rw [h.locate_child hname, hafter.locate_child hname]
  rcases hchild : childLocation p loc name with fault | l
  · rfl
  · obtain rfl := eq_of_childLocation hchild
    simp only [hnode]

/-- The bytes of a text are read as that text. -/
theorem readText_of_readBytes {text : String} (h : fs.readBytes p = .ok text.toUTF8) :
    fs.readText p = .ok text := by
  have hutf8 : String.fromUTF8? text.toUTF8 = some text := dif_pos text.isValidUTF8
  rw [readText, h]
  dsimp only
  rw [hutf8]

theorem isFile_of_readBytes (h : fs.readBytes p = .ok content) : fs.isFile p = true := by
  unfold readBytes at h
  unfold isFile
  rcases hfind : fs.find p with fault | ⟨loc, _ | bytes⟩
  · simp [hfind] at h
  · simp [hfind] at h
  · rfl

theorem locate_of_readText {text : String} (h : fs.readText p = .ok text) :
    ∃ loc, fs.locate p = .ok loc := by
  unfold readText readBytes find at h
  rcases hloc : fs.locate p with fault | loc
  · simp [hloc] at h
  · exact ⟨loc, rfl⟩

theorem writeFile_of_replaceFile (h : fs.replaceFile directory p content = .ok after) :
    fs.writeFile p content = .ok after := by
  unfold replaceFile at h
  split at h
  · cases h
  · dsimp only at h
    split at h
    · cases h
    · cases h
    · exact h

theorem locate_of_isFile (h : fs.isFile p = true) : ∃ loc, fs.locate p = .ok loc := by
  unfold isFile find at h
  rcases hloc : fs.locate p with fault | loc
  · simp [hloc] at h
  · exact ⟨loc, rfl⟩

/-- A file is written if its path leads to a location where there is no directory. -/
theorem writeFile_eq_ok :
    fs.writeFile p content = .ok after ↔ ∃ loc, fs.locate p = .ok loc ∧
      fs.node? loc ≠ some .directory ∧ p.endsWithSlash = false ∧
        after = fs.put loc (.file content) := by
  unfold writeFile
  rcases hloc : fs.locate p with fault | loc
  · simp
  · rcases hnode : fs.node? loc with _ | _ | bytes <;> cases hslash : p.endsWithSlash <;>
      simp [hnode, eq_comm]

theorem locate_of_writeFile (h : fs.writeFile p content = .ok after) :
    ∃ loc, fs.locate p = .ok loc := by
  obtain ⟨loc, hloc, -⟩ := writeFile_eq_ok.mp h
  exact ⟨loc, hloc⟩

/-- What was written to a file is read from it. -/
theorem readBytes_writeFile (h : fs.writeFile p content = .ok after) :
    after.readBytes p = .ok content := by
  obtain ⟨loc, hloc, hnode, hslash, rfl⟩ := writeFile_eq_ok.mp h
  have hroot : loc ≠ [] := by
    rintro rfl
    exact hnode (if_pos rfl)
  have hkeeps : fs.KeepsDirectories (fs.put loc (.file content)) :=
    keepsDirectories_put (.inr hnode)
  have hwritten : (fs.put loc (.file content)).node? loc = some (.file content) := by
    rw [node?_put, if_pos ⟨hroot, rfl⟩]
  simp only [readBytes, find, hkeeps.locate hloc, hwritten, hslash, Bool.false_eq_true, if_false]

/-- Replacing a file of a directory puts the new one at its location. -/
theorem Leads.replaceFile_eq (h : fs.Leads p loc) (hname : IsFileName name)
    (hwrite : fs.replaceFile directory (p.child name) content = .ok after) :
    childLocation p loc name = .ok (loc ++ [name]) ∧
      fs.node? (loc ++ [name]) ≠ some .directory ∧
      after = fs.put (loc ++ [name]) (.file content) := by
  obtain ⟨l, hlocate, hnode, -, hafter⟩ :=
    writeFile_eq_ok.mp (writeFile_of_replaceFile hwrite)
  rw [h.locate_child hname] at hlocate
  obtain rfl := eq_of_childLocation hlocate
  exact ⟨hlocate, hnode, hafter⟩

/-- Replacing a file of a directory leaves the directory and everything else as it is. -/
theorem Leads.replaceFile_child (h : fs.Leads p loc) (hname : IsFileName name)
    (hwrite : fs.replaceFile directory (p.child name) content = .ok after) :
    after.Leads p loc ∧ ∀ l ≠ loc ++ [name], after.node? l = fs.node? l := by
  obtain ⟨-, hnode, rfl⟩ := h.replaceFile_eq hname hwrite
  refine ⟨(keepsDirectories_put (.inr hnode)).leads h, fun l hl => ?_⟩
  rw [node?_put, if_neg fun hsame => hl hsame.2]

/-! ## Making directories -/

theorem Leads.makeDirectories (h : fs.Leads p loc) : fs.makeDirectories p = (fs, none) := by
  unfold Files.makeDirectories
  rw [makeBelow.eq_def]
  by_cases hempty : p.text = ""
  · rw [if_pos hempty]
  · have hmake : fs.makeDirectory p = .error .present := by
      unfold makeDirectory
      rw [h.locate hempty]
      simp only [h.directory]
    have hthere : fs.isDirectory p := by
      unfold isDirectory find
      rw [h.locate hempty]
      simp only [h.directory]
    rw [if_neg hempty, settle, hmake]
    simp only [hthere, if_true]

theorem leads_of_isDirectory (hp : p.text ≠ "") (h : fs.isDirectory p = true) :
    ∃ loc, fs.Leads p loc := by
  unfold isDirectory find at h
  rcases hloc : fs.locate p with fault | loc
  · simp [hloc] at h
  · rcases hnode : fs.node? loc with _ | _ | content
    · simp [hloc, hnode] at h
    · exact ⟨loc, fun _ => hloc, fun hempty => absurd hempty hp, hnode⟩
    · cases hslash : p.endsWithSlash <;> simp [hloc, hnode, hslash] at h

theorem leads_of_settle (hp : p.text ≠ "") (h : fs.settle p = .ok after) :
    ∃ loc, after.Leads p loc := by
  unfold settle at h
  rcases hmake : fs.makeDirectory p with fault | made
  · simp only [hmake] at h
    split at h
    · rename_i hthere
      cases h
      exact leads_of_isDirectory hp hthere
    · cases h
  · simp only [hmake] at h
    cases h
    unfold makeDirectory at hmake
    rcases hloc : fs.locate p with fault | loc
    · simp [hloc] at hmake
    · rcases hnode : fs.node? loc with _ | node
      · simp only [hloc, hnode] at hmake
        cases hmake
        have hkeeps : fs.KeepsDirectories (fs.put loc .directory) := keepsDirectories_put (.inl rfl)
        refine ⟨loc, fun _ => hkeeps.locate hloc, fun hempty => absurd hempty hp, ?_⟩
        rw [node?_put]
        by_cases hroot : loc = [] <;> simp [hroot, node?]
      · simp [hloc, hnode] at hmake

/-- Directories that were made are there. -/
theorem leads_of_makeDirectories (hp : p.text ≠ "")
    (h : fs.makeDirectories p = (after, none)) : ∃ loc, after.Leads p loc := by
  unfold Files.makeDirectories at h
  rw [makeBelow.eq_def, if_neg hp] at h
  rcases hsettle : fs.settle p with fault | made
  · simp only [hsettle] at h
    split at h
    · split at h
      · cases h
      · split at h
        · cases h
        · rename_i made hmade
          rcases hagain : made.settle p with fault | done
          · simp [hagain] at h
          · simp only [hagain] at h
            cases h
            exact leads_of_settle hp hagain
    · cases h
  · simp only [hsettle] at h
    cases h
    exact leads_of_settle hp hsettle

/-- The current directory is there if a file in it can be located. -/
theorem leads_of_locate_ofName {l : Location} (hp : p.text = "") (hname : IsFileName name)
    (h : fs.locate (p.child name) = .ok l) : ∃ loc, fs.Leads p loc := by
  rw [Path.child_of_empty hp hname] at h
  obtain ⟨start, ⟨habsolute, -⟩ | ⟨-, hcurrent⟩, hfollow⟩ := exists_follow_of_locate h
  · rw [Path.isAbsolute_ofName hname] at habsolute
    cases habsolute
  · rw [Path.components_ofName hname, follow_cons] at hfollow
    rcases henter : fs.enter start name with fault | next
    · rw [henter] at hfollow
      cases hfollow
    · exact ⟨start, fun hne => absurd hp hne, fun _ => hcurrent, directory_of_enter henter⟩

/-- A directory is there if a file in it can be located. -/
theorem leads_of_locate_child {l : Location} (hname : IsFileName name)
    (h : fs.locate (p.child name) = .ok l) : ∃ loc, fs.Leads p loc := by
  by_cases hp : p.text = ""
  · exact leads_of_locate_ofName hp hname h
  · obtain ⟨start, hstart, hfollow⟩ := exists_follow_of_locate h
    rw [Path.components_child hp hname, follow_append] at hfollow
    rcases hdirectory : fs.follow start p.components with fault | loc
    · rw [hdirectory] at hfollow
      cases hfollow
    · rw [hdirectory] at hfollow
      simp only [Except.bind, follow_cons] at hfollow
      rcases henter : fs.enter loc name with fault | next
      · rw [henter] at hfollow
        cases hfollow
      · rw [Path.isAbsolute_child hp hname] at hstart
        refine ⟨loc, fun _ => ?_, fun hempty => absurd hempty hp, directory_of_enter henter⟩
        have hlimits := isWithinLimits_of_child hname (isWithinLimits_of_locate h)
        exact locate_of_follow hp hlimits hstart hdirectory

end Files

end Typelib
