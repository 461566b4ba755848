import Typelib.Proofs.Text.Lines
import Typelib.Proofs.Text.Spelling

/-!
# Blanks around texts

What a text holds may have blanks around it (`IsPadded`), as a number in decimal has
(`HoldsDecimal`).  Of a text that is cut into fields the blanks at its ends are those before the
first and after the last field, so the fields without their blanks are the same whether the blanks
around the whole text are removed first or not (`map_trim_fields`).
-/

namespace Typelib.Text

/-- A text with any blanks around it. -/
def IsPadded (inner cs : List Char) : Prop :=
  ∃ before after, cs = before ++ inner ++ after ∧ ∀ c ∈ before ++ after, isBlank c

theorem isPadded_trim (cs : List Char) : IsPadded (trim cs) cs := exists_trim cs

theorem IsPadded.trim_eq {inner cs : List Char} (h : IsPadded inner cs) : trim cs = trim inner := by
  obtain ⟨before, after, rfl, hblank⟩ := h
  exact trim_append hblank

theorem isPadded_iff_trim_eq {inner cs : List Char} (h : ∀ c ∈ inner, isBlank c = false) :
    IsPadded inner cs ↔ trim cs = inner :=
  (trim_eq_iff h).symm

/-- Only blanks stand around a padded text. -/
theorem IsPadded.mem {c : Char} {inner cs : List Char} (h : IsPadded inner cs) (hc : c ∈ cs)
    (hkept : isBlank c = false) : c ∈ inner := by
  obtain ⟨before, after, rfl, hblank⟩ := h
  rw [List.append_assoc, List.mem_append, List.mem_append] at hc
  rcases hc with hc | hc | hc
  · exact absurd (hblank c (List.mem_append_left _ hc)) (by simp [hkept])
  · exact hc
  · exact absurd (hblank c (List.mem_append_right _ hc)) (by simp [hkept])

/-- Blanks after a text go with those at its own end. -/
theorem trim_append_of_not_blank {inner rest : List Char} (hne : inner ≠ [])
    (h : ∀ c ∈ inner, isBlank c = false) : trim (inner ++ rest) = inner ++ trimEnd rest := by
  have hstart : trimStart (inner ++ rest) = inner ++ rest := by
    obtain ⟨c, more, rfl⟩ := List.exists_cons_of_ne_nil hne
    rw [trimStart, List.cons_append,
      List.dropWhile_cons_of_neg (by simp [h c List.mem_cons_self])]
  have hinner : inner.reverse.dropWhile isBlank = inner.reverse :=
    trimStart_eq_self fun c hc => h c (List.mem_reverse.mp hc)
  rw [trim, hstart, trimEnd, trimEnd, List.reverse_append, List.dropWhile_append, hinner]
  split
  · rename_i hnothing
    rw [List.isEmpty_iff.mp hnothing]
    simp
  · simp

theorem isPadded_trimEnd (cs : List Char) : IsPadded (trimEnd cs) cs := by
  obtain ⟨after, hend, hafter⟩ := exists_trimEnd cs
  exact ⟨[], after, hend, hafter⟩

/-! ## Numbers -/

/-- A text that holds a number in decimal, with any blanks around it. -/
def HoldsDecimal (cs : List Char) (n : Nat) : Prop :=
  ∃ digits, SpellsDecimal digits n ∧ IsPadded digits cs

theorem holdsDecimal_iff {cs : List Char} {n : Nat} :
    HoldsDecimal cs n ↔ SpellsDecimal (trim cs) n := by
  constructor
  · rintro ⟨digits, hspells, hpadded⟩
    rwa [(isPadded_iff_trim_eq hspells.not_blank).mp hpadded]
  · intro h
    exact ⟨trim cs, h, isPadded_trim cs⟩

theorem unsigned?_trim_eq_some_iff {limit n : Nat} {cs : List Char} :
    unsigned? 10 limit (trim cs) = some n ↔ HoldsDecimal cs n ∧ n < limit := by
  rw [unsigned?_ten_eq_some_iff, holdsDecimal_iff]

theorem word16?_trim_eq_some_iff {cs : List Char} {w : UInt16} :
    word16? 10 (trim cs) = some w ↔ HoldsDecimal cs w.toNat := by
  rw [word16?_iff_unsigned?, unsigned?_trim_eq_some_iff, and_iff_left w.toNat_lt]

theorem word32?_trim_eq_some_iff {cs : List Char} {w : UInt32} :
    word32? 10 (trim cs) = some w ↔ HoldsDecimal cs w.toNat := by
  rw [word32?_iff_unsigned?, unsigned?_trim_eq_some_iff, and_iff_left w.toNat_lt]

theorem unsigned?_trim_eq_none_iff {limit : Nat} {cs : List Char} :
    unsigned? 10 limit (trim cs) = none ↔ ∀ n < limit, ¬ HoldsDecimal cs n := by
  rw [Option.eq_none_iff_forall_ne_some]
  constructor
  · intro h n hn hholds
    exact h n (unsigned?_trim_eq_some_iff.mpr ⟨hholds, hn⟩)
  · intro h n hread
    obtain ⟨hholds, hn⟩ := unsigned?_trim_eq_some_iff.mp hread
    exact h n hn hholds

theorem word16?_trim_eq_none_iff {cs : List Char} :
    word16? 10 (trim cs) = none ↔ ∀ n < UInt16.size, ¬ HoldsDecimal cs n := by
  rw [word16?, Option.map_eq_none_iff, unsigned?_trim_eq_none_iff]

theorem word32?_trim_eq_none_iff {cs : List Char} :
    word32? 10 (trim cs) = none ↔ ∀ n < UInt32.size, ¬ HoldsDecimal cs n := by
  rw [word32?, Option.map_eq_none_iff, unsigned?_trim_eq_none_iff]

/-- A number stands between commas. -/
theorem HoldsDecimal.comma_not_mem {cs : List Char} {n : Nat} (h : HoldsDecimal cs n) :
    ',' ∉ cs := by
  obtain ⟨digits, hspells, hpadded⟩ := h
  have hdigits {digits : List Char} (h : SpellsDecimalDigits digits n) : ',' ∉ digits := by
    intro hmem
    exact absurd (h.digits ',' hmem) (by decide)
  intro hmem
  have hinner : ',' ∈ digits := hpadded.mem hmem (by decide)
  rcases hspells with hspells | ⟨rest, rfl, hspells⟩
  · exact hdigits hspells hinner
  · rw [List.mem_cons] at hinner
    rcases hinner with hsign | hmem
    · cases hsign
    · exact hdigits hspells hmem

/-! ## Fields -/

section Fields

variable {separator : Char} {before after cs : List Char}

/-- A text without the separator goes to the first field of what follows it. -/
theorem fields_append_of_not_mem (h : separator ∉ before) :
    fields separator (before ++ cs) = (fields separator cs).modifyHead (before ++ ·) := by
  induction before with
  | nil => cases hfields : fields separator cs <;> simp [hfields]
  | cons c rest ih =>
    rw [List.mem_cons, not_or] at h
    rw [List.cons_append, fields_cons, ih h.2]
    rcases hfields : fields separator cs with _ | ⟨field, more⟩
    · exact absurd hfields fields_ne_nil
    · simp [fieldStep, Ne.symm h.1]

/-- A text without the separator goes to the last field of what stands before it. -/
theorem exists_fields_append (cs : List Char) (h : separator ∉ after) :
    ∃ front last, fields separator cs = front ++ [last] ∧
      fields separator (cs ++ after) = front ++ [last ++ after] := by
  induction cs with
  | nil => exact ⟨[], [], rfl, fields_of_not_mem h⟩
  | cons c rest ih =>
    obtain ⟨front, last, hfields, happend⟩ := ih
    rw [List.cons_append, fields_cons, fields_cons, hfields, happend]
    by_cases hc : c = separator
    · exact ⟨[] :: front, last, by cases front <;> simp [fieldStep, hc],
        by cases front <;> simp [fieldStep, hc]⟩
    · rcases front with _ | ⟨field, front⟩
      · exact ⟨[], c :: last, by simp [fieldStep, hc], by simp [fieldStep, hc]⟩
      · exact ⟨(c :: field) :: front, last, by simp [fieldStep, hc], by simp [fieldStep, hc]⟩

/-- The blanks at the ends of a text are blanks at the ends of its fields. -/
theorem map_trim_fields (h : isBlank separator = false) (cs : List Char) :
    (fields separator (trim cs)).map trim = (fields separator cs).map trim := by
  obtain ⟨before, after, heq, hblank⟩ := exists_trim cs
  obtain ⟨hbefore, hafter⟩ := List.forall_mem_append.mp hblank
  have hfree {blanks : List Char} (hblanks : ∀ c ∈ blanks, isBlank c) : separator ∉ blanks := by
    intro hmem
    rw [hblanks separator hmem] at h
    cases h
  have hstart : (fields separator (before ++ trim cs ++ after)).map trim =
      (fields separator (trim cs ++ after)).map trim := by
    rw [List.append_assoc, fields_append_of_not_mem (hfree hbefore)]
    rcases fields separator (trim cs ++ after) with _ | ⟨field, more⟩
    · rfl
    · have hfield : trim (before ++ field) = trim field := by
        rw [← List.append_nil (before ++ field)]
        exact trim_append (by simpa using hbefore)
      simp [hfield]
  have hend : (fields separator (trim cs ++ after)).map trim =
      (fields separator (trim cs)).map trim := by
    obtain ⟨front, last, hfields, happend⟩ := exists_fields_append (trim cs) (hfree hafter)
    have hlast : trim (last ++ after) = trim last := by
      rw [← List.nil_append last]
      exact trim_append (by simpa using hafter)
    simp [hfields, happend, hlast]
  rw [← hend, ← hstart, ← heq]

end Fields

end Typelib.Text
