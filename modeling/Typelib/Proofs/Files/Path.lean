import Typelib.Files.Path
import Typelib.Proofs.Text.Segments

/-!
# The path of a file in a directory

`Path.child` joins a directory and the name of a file in it, whether or not the directory ends with
a slash.  The components of the result are those of the directory and the name, if that is one
component.
-/

namespace Typelib

/-- A text that names a file in a directory. -/
structure IsFileName (name : String) : Prop where
  slash : '/' ∉ name.toList
  nonempty : name.toList ≠ []
  dot : name ≠ "."
  dots : name ≠ ".."

instance : DecidablePred IsFileName := fun name =>
  decidable_of_iff ('/' ∉ name.toList ∧ name.toList ≠ [] ∧ name ≠ "." ∧ name ≠ "..")
    ⟨fun ⟨slash, nonempty, dot, dots⟩ => ⟨slash, nonempty, dot, dots⟩,
      fun h => ⟨h.slash, h.nonempty, h.dot, h.dots⟩⟩

namespace Path

variable {base : Path} {name : String}

theorem fields_ofName (h : IsFileName name) : Text.fields '/' name.toList = [name.toList] := by
  have hslash : ∀ part ∈ [name.toList], '/' ∉ part := List.forall_mem_singleton.mpr h.slash
  simpa using Text.fields_intercalate (List.cons_ne_nil _ _) hslash

theorem isAbsolute_ofName (h : IsFileName name) : (⟨name⟩ : Path).isAbsolute = false := by
  have hhead := fun hslash => h.slash (List.mem_of_head? hslash)
  simpa [isAbsolute] using hhead

theorem components_ofName (h : IsFileName name) : (⟨name⟩ : Path).components = [name] := by
  simp [components, fields_ofName h, h.nonempty]

/-- In the empty path a name stands for itself. -/
theorem child_of_empty (hbase : base.text = "") (h : IsFileName name) :
    base.child name = ⟨name⟩ := by
  simp [child, join, isAbsolute_ofName h, hbase]

/-- The text of a child ends with a slash and the name, or starts the path. -/
theorem exists_toList_child (hbase : base.text ≠ "") (h : IsFileName name) :
    ∃ before, (base.child name).text.toList = before ++ '/' :: name.toList ∧
      (base.text.toList = before ∨ base.text.toList = before ++ ['/']) := by
  unfold child join
  rw [isAbsolute_ofName h, if_neg (by decide)]
  split
  · rename_i hends
    obtain ⟨before, hbefore⟩ := List.getLast?_eq_some_iff.mp (of_decide_eq_true
      (hends.resolve_left hbase))
    exact ⟨before, by simp [hbefore], .inr hbefore⟩
  · exact ⟨base.text.toList, by simp, .inl rfl⟩

/-- The text of a child starts with that of the directory. -/
theorem exists_text_child_eq_append (base : Path) (h : IsFileName name) :
    ∃ rest, (base.child name).text = base.text ++ rest := by
  unfold child join
  rw [isAbsolute_ofName h, if_neg (by decide)]
  split
  · exact ⟨name, rfl⟩
  · exact ⟨"/" ++ name, String.append_assoc⟩

/-- Files of different names have different paths. -/
theorem child_injective {other : String} (h : IsFileName name) (hother : IsFileName other)
    (heq : base.child name = base.child other) : name = other := by
  have htext := congrArg Path.text heq
  simp only [child, join, isAbsolute_ofName h, isAbsolute_ofName hother, Bool.false_eq_true,
    if_false] at htext
  split at htext <;> simpa [String.append_assoc, String.append_right_inj] using htext

theorem components_child (hbase : base.text ≠ "") (h : IsFileName name) :
    (base.child name).components = base.components ++ [name] := by
  obtain ⟨before, hchild, hbefore⟩ := exists_toList_child hbase h
  unfold components
  rw [hchild, Text.fields_append, fields_ofName h]
  rcases hbefore with hbefore | hbefore
  · simp [hbefore, h.nonempty]
  · rw [hbefore, Text.fields_append]
    simp [Text.fields, h.nonempty]

theorem isAbsolute_child (hbase : base.text ≠ "") (h : IsFileName name) :
    (base.child name).isAbsolute = base.isAbsolute := by
  obtain ⟨before, hchild, hbefore⟩ := exists_toList_child hbase h
  obtain ⟨c, rest, hc⟩ := List.exists_cons_of_ne_nil (mt String.toList_eq_nil_iff.mp hbase)
  unfold isAbsolute
  rw [hchild]
  rcases hbefore with rfl | hbefore
  · simp [hc]
  · rw [hbefore]
    cases before <;> simp

/-- The path of a child ends with the name. -/
theorem exists_text_child (base : Path) (h : IsFileName name) :
    ∃ before, (base.child name).text.toList = before ++ name.toList := by
  by_cases hbase : base.text = ""
  · exact ⟨[], by rw [child_of_empty hbase h, List.nil_append]⟩
  · obtain ⟨before, hchild, -⟩ := exists_toList_child hbase h
    exact ⟨before ++ ['/'], by rw [hchild, List.append_assoc, List.singleton_append]⟩

theorem text_child_ne (h : IsFileName name) : (base.child name).text ≠ "" := by
  obtain ⟨before, hchild⟩ := exists_text_child base h
  intro hempty
  rw [hempty] at hchild
  exact h.nonempty (List.append_eq_nil_iff.mp hchild.symm).2

theorem endsWithSlash_child (h : IsFileName name) : (base.child name).endsWithSlash = false := by
  obtain ⟨before, hchild⟩ := exists_text_child base h
  have hlast : name.toList.getLast? ≠ some '/' :=
    fun hlast => h.slash (List.mem_of_getLast? hlast)
  obtain ⟨c, hc⟩ := Option.ne_none_iff_exists'.mp (mt List.getLast?_eq_none_iff.mp h.nonempty)
  rw [endsWithSlash, hchild, List.getLast?_append, hc, Option.some_or]
  simpa [hc] using hlast

end Path

end Typelib
