import Mathlib
import Typelib.Text.Segments

/-!
# Cutting what was joined

`Text.fields` is the core library's `List.splitOn` (`fields_eq_splitOn`), so fields that were
joined with a separator they do not contain are found again (`fields_intercalate`).  `Text.cut`,
`Text.afterLastPair` and `Text.afterStart` find a part of an explicit concatenation; reading a
sealed text rests on the first and the last of these.
-/

namespace Typelib.Text

theorem fields_eq_splitOn (separator : Char) (cs : List Char) :
    fields separator cs = cs.splitOn separator := by
  induction cs with
  | nil => simp [fields]
  | cons c rest ih =>
    rw [fields_cons, List.splitOn_cons_eq_if_modifyHead, ← ih]
    rcases h : fields separator rest with _ | ⟨field, more⟩
    · exact absurd h fields_ne_nil
    · simp [fieldStep]

theorem fields_intercalate {separator : Char} {parts : List (List Char)} (hne : parts ≠ [])
    (hfree : ∀ part ∈ parts, separator ∉ part) :
    fields separator ([separator].intercalate parts) = parts := by
  rw [fields_eq_splitOn]
  exact List.splitOn_intercalate separator hfree hne

theorem fields_append {separator : Char} (before after : List Char) :
    fields separator (before ++ separator :: after) =
      fields separator before ++ fields separator after := by
  induction before with
  | nil =>
    rw [List.nil_append, fields_cons]
    rcases h : fields separator after with _ | ⟨field, more⟩
    · exact absurd h fields_ne_nil
    · simp [fields, fieldStep]
  | cons c rest ih =>
    rw [List.cons_append, fields_cons, fields_cons, ih]
    rcases h : fields separator rest with _ | ⟨field, more⟩
    · exact absurd h fields_ne_nil
    · simp only [List.cons_append, fieldStep]
      split <;> rfl

theorem mem_intercalate {separator c : Char} {parts : List (List Char)}
    (h : c ∈ [separator].intercalate parts) : c = separator ∨ ∃ part ∈ parts, c ∈ part := by
  induction parts with
  | nil => simp at h
  | cons part rest ih =>
    cases rest with
    | nil => exact .inr ⟨part, by simp, by simpa using h⟩
    | cons next more =>
      simp only [List.intercalate_cons_cons, List.append_assoc, List.mem_append,
        List.mem_singleton] at h
      rcases h with h | h | h
      · exact .inr ⟨part, by simp, h⟩
      · exact .inl h
      · rcases ih h with h | ⟨p, hp, hc⟩
        · exact .inl h
        · exact .inr ⟨p, .tail _ hp, hc⟩

theorem map_intercalate (f : Char → Char) {separator : Char} (hf : f separator = separator)
    (parts : List (List Char)) :
    ([separator].intercalate parts).map f = [separator].intercalate (parts.map (·.map f)) := by
  induction parts with
  | nil => rfl
  | cons part rest ih =>
    cases rest with
    | nil => simp
    | cons next more => simp_all

theorem fields_map {f : Char → Char} {separator : Char} (hf : ∀ c, f c = separator ↔ c = separator)
    (cs : List Char) : fields separator (cs.map f) = (fields separator cs).map (·.map f) := by
  induction cs with
  | nil => rfl
  | cons c rest ih =>
    rw [List.map_cons, fields_cons, fields_cons, ih]
    rcases hfields : fields separator rest with _ | ⟨field, more⟩
    · exact absurd hfields fields_ne_nil
    · by_cases hc : c = separator <;> simp [fieldStep, hf, hc]

theorem cut_append {separator : Char} {before after : List Char} (h : separator ∉ before) :
    cut separator (before ++ separator :: after) = some (before, after) := by
  have hkeep : ∀ c ∈ before, (c != separator) = true := by
    intro c hc
    simpa using fun heq : c = separator => h (heq ▸ hc)
  simp [cut, List.dropWhile_append_of_pos hkeep, List.takeWhile_append_of_pos hkeep]

/-- A text without the separator is not cut. -/
theorem cut_eq_none {separator : Char} {cs : List Char} (h : separator ∉ cs) :
    cut separator cs = none := by
  have hkeep : cs.dropWhile (· != separator) = [] := by
    refine List.dropWhile_eq_nil_iff.mpr fun c hc => ?_
    simpa using fun heq : c = separator => h (heq ▸ hc)
  rw [cut, hkeep]

/-- A text is cut at its first separator. -/
theorem cut_eq_some_iff {separator : Char} {cs before after : List Char} :
    cut separator cs = some (before, after) ↔
      cs = before ++ separator :: after ∧ separator ∉ before := by
  refine ⟨fun h => ⟨eq_of_cut h, ?_⟩, fun ⟨heq, hbefore⟩ => by rw [heq, cut_append hbefore]⟩
  unfold cut at h
  split at h
  · cases h
  · obtain ⟨rfl, -⟩ := by simpa using h
    intro hmem
    simpa using List.mem_takeWhile_imp hmem

theorem not_mem_of_cut_eq_none {separator : Char} {cs : List Char}
    (h : cut separator cs = none) : separator ∉ cs := by
  intro hmem
  obtain ⟨before, after, rfl, hbefore⟩ := List.eq_append_cons_of_mem hmem
  rw [cut_append hbefore] at h
  cases h

theorem afterLastPair_cons_some {separator c : Char} {rest found : List Char}
    (h : afterLastPair separator rest = some found) :
    afterLastPair separator (c :: rest) = some found := by
  rw [afterLastPair.eq_def]
  simp only [h]

theorem afterLastPair_cons_none {separator c d : Char} {after : List Char}
    (h : afterLastPair separator (d :: after) = none) :
    afterLastPair separator (c :: d :: after) =
      if c = separator ∧ d = separator then some after else none := by
  rw [afterLastPair.eq_def]
  simp only [h]

theorem afterLastPair_eq_none {separator c : Char} {cs : List Char} (h : separator ∉ cs) :
    afterLastPair separator (c :: cs) = none := by
  induction cs generalizing c with
  | nil => rfl
  | cons d rest ih =>
    rw [List.mem_cons, not_or] at h
    rw [afterLastPair_cons_none (ih h.2), if_neg fun hpair => h.1 hpair.2.symm]

/-- What follows the last pair has no separator in it. -/
theorem afterLastPair_append {separator : Char} (before : List Char) {after : List Char}
    (h : separator ∉ after) :
    afterLastPair separator (before ++ separator :: separator :: after) = some after := by
  induction before with
  | nil =>
    rw [List.nil_append, afterLastPair_cons_none (afterLastPair_eq_none h), if_pos ⟨rfl, rfl⟩]
  | cons c rest ih => exact afterLastPair_cons_some ih

/-- Nothing follows a pair exactly if there is none. -/
theorem afterLastPair_eq_none_iff {separator : Char} {cs : List Char} :
    afterLastPair separator cs = none ↔ ¬[separator, separator] <:+: cs := by
  induction cs with
  | nil => simp [afterLastPair]
  | cons c rest ih =>
    rw [List.infix_cons_iff, not_or, ← ih]
    rcases hrest : afterLastPair separator rest with _ | found
    · cases rest with
      | nil => simp [afterLastPair, List.cons_prefix_cons]
      | cons d more =>
        rw [afterLastPair_cons_none hrest]
        simp [List.cons_prefix_cons, eq_comm]
    · simp [afterLastPair_cons_some hrest]

/-- What follows the last pair: no further pair is in it, or starts right before it. -/
theorem afterLastPair_eq_some_iff {separator : Char} {cs after : List Char} :
    afterLastPair separator cs = some after ↔
      ¬[separator, separator] <:+: separator :: after ∧
        ∃ before, cs = before ++ separator :: separator :: after := by
  constructor
  · intro h
    induction cs with
    | nil => cases h
    | cons c rest ih =>
      rcases hrest : afterLastPair separator rest with _ | found
      · cases rest with
        | nil => cases h
        | cons d more =>
          rw [afterLastPair_cons_none hrest] at h
          split at h
          · rename_i hpair
            obtain ⟨rfl, rfl⟩ := hpair
            cases h
            exact ⟨afterLastPair_eq_none_iff.mp hrest, [], rfl⟩
          · cases h
      · rw [afterLastPair_cons_some hrest] at h
        cases h
        obtain ⟨hlast, before, hbefore⟩ := ih hrest
        exact ⟨hlast, c :: before, congrArg (c :: ·) hbefore⟩
  · rintro ⟨hlast, before, rfl⟩
    induction before with
    | nil =>
      rw [List.nil_append, afterLastPair_cons_none (afterLastPair_eq_none_iff.mpr hlast),
        if_pos ⟨rfl, rfl⟩]
    | cons c before ih => exact afterLastPair_cons_some ih

theorem afterStart_append (start rest : List Char) :
    afterStart start (start ++ rest) = some rest := by
  induction start with
  | nil => rfl
  | cons c start ih => simpa [afterStart] using ih

theorem afterStart_eq_some_iff {start cs rest : List Char} :
    afterStart start cs = some rest ↔ cs = start ++ rest := by
  refine ⟨fun h => ?_, fun h => by rw [h, afterStart_append]⟩
  induction start generalizing cs with
  | nil => simpa [afterStart] using h
  | cons p start ih =>
    cases cs with
    | nil => cases h
    | cons c cs =>
      rw [afterStart] at h
      split at h
      · rename_i hsame
        rw [hsame, ih h, List.cons_append]
      · cases h

end Typelib.Text
