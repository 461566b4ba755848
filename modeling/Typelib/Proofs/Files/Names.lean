import Typelib.Proofs.Files.Removing
import Typelib.Proofs.Text.Lines

/-!
# Names in a tree

A tree of files `IsWellNamed` if every place in it is told by names that a file can have.  Paths are
cut at slashes, and dots are followed, so they lead to such places only (`IsWellNamed.locate`); and
what the operations on files change is at the places that paths lead to.
-/

namespace Typelib

namespace Path

/-- A component of a path is not empty and has no slash in it. -/
theorem isSpelled_of_mem_components {p : Path} {name : String} (h : name ∈ p.components) :
    '/' ∉ name.toList ∧ name.toList ≠ [] := by
  obtain ⟨piece, hpiece, rfl⟩ := List.mem_map.mp h
  obtain ⟨hfield, hne⟩ := List.mem_filter.mp hpiece
  rw [String.toList_ofList]
  exact ⟨Text.not_mem_of_mem_fields hfield, of_decide_eq_true hne⟩

end Path

namespace Files

variable {fs after : Files} {p : Path} {loc : Location} {name : String}

/-- Every place in the tree is told by names of files. -/
structure IsWellNamed (fs : Files) : Prop where
  nodes : ∀ l ∈ fs.nodes.keys, ∀ name ∈ l, IsFileName name
  current : ∀ l ∈ fs.current, ∀ name ∈ l, IsFileName name

theorem isFileName_of_step (hloc : ∀ n ∈ loc, IsFileName n)
    (hname : '/' ∉ name.toList ∧ name.toList ≠ []) : ∀ n ∈ loc.step name, IsFileName n := by
  unfold Location.step
  split
  · exact hloc
  · rename_i hdot
    split
    · exact fun n hn => hloc n (List.mem_of_mem_dropLast hn)
    · rename_i hdots
      intro n hn
      rcases List.mem_append.mp hn with hn | hn
      · exact hloc n hn
      · obtain rfl := List.mem_singleton.mp hn
        exact ⟨hname.1, hname.2, hdot, hdots⟩

theorem isFileName_of_follow {start : Location} {names : List String}
    (hstart : ∀ n ∈ start, IsFileName n)
    (hnames : ∀ name ∈ names, '/' ∉ name.toList ∧ name.toList ≠ [])
    (h : fs.follow start names = .ok loc) : ∀ n ∈ loc, IsFileName n := by
  induction names generalizing start with
  | nil =>
    cases h
    exact hstart
  | cons name rest ih =>
    obtain ⟨hname, hrest⟩ := List.forall_mem_cons.mp hnames
    rw [follow_cons] at h
    rcases hnext : fs.enter start name with fault | next
    · rw [hnext] at h
      cases h
    · rw [hnext] at h
      rw [enter_eq_ok (directory_of_enter hnext)] at hnext
      split at hnext
      · cases hnext
      · cases hnext
        exact ih (isFileName_of_step hstart hname) hrest h

/-- What a path leads to is told by names of files. -/
theorem IsWellNamed.locate (h : fs.IsWellNamed) (hlocate : fs.locate p = .ok loc) :
    ∀ n ∈ loc, IsFileName n := by
  obtain ⟨start, hstart, hfollow⟩ := exists_follow_of_locate hlocate
  refine isFileName_of_follow ?_ (fun name hname => Path.isSpelled_of_mem_components hname) hfollow
  rcases hstart with ⟨-, rfl⟩ | ⟨-, hcurrent⟩
  · exact List.forall_mem_nil _
  · exact h.current start hcurrent

theorem IsWellNamed.put {node : Node} (h : fs.IsWellNamed) (hloc : ∀ n ∈ loc, IsFileName n) :
    (fs.put loc node).IsWellNamed where
  nodes l hl := by
    rcases Table.mem_keys_insert.mp hl with rfl | hl
    · exact hloc
    · exact h.nodes l hl
  current := h.current

/-- Writing files, making directories and removing files keeps a tree well named. -/
theorem IsWellNamed.writeFile {content : ByteArray} (h : fs.IsWellNamed)
    (hwrite : fs.writeFile p content = .ok after) : after.IsWellNamed := by
  obtain ⟨loc, hlocate, -, -, rfl⟩ := writeFile_eq_ok.mp hwrite
  exact h.put (h.locate hlocate)

theorem IsWellNamed.makeDirectory (h : fs.IsWellNamed)
    (hmake : fs.makeDirectory p = .ok after) : after.IsWellNamed := by
  unfold Files.makeDirectory at hmake
  split at hmake
  · cases hmake
  · rename_i l hlocate
    split at hmake
    · cases hmake
    · cases hmake
      exact h.put (h.locate hlocate)

theorem IsWellNamed.without (h : fs.IsWellNamed) (locs : List Location) :
    (fs.without locs).IsWellNamed where
  nodes l hl := h.nodes l (List.mem_of_mem_filter (keys_without ▸ hl))
  current := h.current

theorem IsWellNamed.removeFile (h : fs.IsWellNamed) (hremove : fs.removeFile p = .ok after) :
    after.IsWellNamed := by
  obtain ⟨loc, -, -, rfl⟩ := removeFile_eq_ok.mp hremove
  exact h.without [loc]

end Files

end Typelib
