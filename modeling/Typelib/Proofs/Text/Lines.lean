import Typelib.Proofs.Text.Digits
import Typelib.Proofs.Text.Segments
import Typelib.Text.Quoted

/-!
# Lines

Texts written one after the other, each with a separator behind it, are cut into what the texts
are cut into one by one (`fields_terminated`).  These are the texts themselves exactly when none of
them has the separator in it (`flatMap_fields_eq_self_iff`); a separator inside one of them starts a
further field.  A quoted text stays on its line, whatever was quoted (`not_isBreak_of_mem_quoted`).
-/

namespace Typelib.Text

variable {separator : Char} {cs : List Char} {texts : List (List Char)}

/-! ## Terminated texts -/

theorem fields_of_not_mem (h : separator ∉ cs) : fields separator cs = [cs] := by
  have hjoined : [separator].intercalate [cs] = cs := by simp
  rw [← hjoined, fields_intercalate (List.cons_ne_nil _ _) (by simpa using h), hjoined]

theorem not_mem_of_mem_fields {field : List Char} (h : field ∈ fields separator cs) :
    separator ∉ field := by
  induction cs generalizing field with
  | nil =>
    rw [List.mem_singleton.mp h]
    exact List.not_mem_nil
  | cons c rest ih =>
    rw [fields_cons] at h
    rcases hrest : fields separator rest with _ | ⟨first, more⟩
    · exact absurd hrest fields_ne_nil
    · rw [hrest] at h ih
      by_cases hc : c = separator
      · rw [fieldStep, if_pos hc] at h
        rcases List.mem_cons.mp h with rfl | h
        · exact List.not_mem_nil
        · exact ih h
      · rw [fieldStep, if_neg hc] at h
        rcases List.mem_cons.mp h with rfl | h
        · rw [List.mem_cons, not_or]
          exact ⟨fun heq => hc heq.symm, ih List.mem_cons_self⟩
        · exact ih (List.mem_cons_of_mem _ h)

/-- There is one field more than there are separators. -/
theorem length_fields (separator : Char) (cs : List Char) :
    (fields separator cs).length = cs.count separator + 1 := by
  induction cs with
  | nil => rfl
  | cons c rest ih =>
    rw [fields_cons]
    rcases h : fields separator rest with _ | ⟨field, more⟩
    · exact absurd h fields_ne_nil
    · rw [h] at ih
      by_cases hc : c = separator
      · simp [fieldStep, hc, ih.symm]
      · simp [fieldStep, hc, ih.symm]

/-- Every text has at least one field. -/
theorem length_le_flatMap_fields (separator : Char) (texts : List (List Char)) :
    texts.length ≤ (texts.flatMap (fields separator)).length := by
  induction texts with
  | nil => exact Nat.le_refl _
  | cons text rest ih =>
    rw [List.flatMap_cons, List.length_append, length_fields, List.length_cons]
    omega

/-- Texts are their own fields exactly when none has a separator. -/
theorem flatMap_fields_eq_self_iff :
    texts.flatMap (fields separator) = texts ↔ ∀ text ∈ texts, separator ∉ text := by
  induction texts with
  | nil => simp
  | cons text rest ih =>
    rw [List.forall_mem_cons, List.flatMap_cons]
    constructor
    · intro h
      have hlength := congrArg List.length h
      have hrest := length_le_flatMap_fields separator rest
      rw [List.length_append, length_fields, List.length_cons] at hlength
      have hfree : separator ∉ text := List.count_eq_zero.mp (by omega)
      rw [fields_of_not_mem hfree] at h
      exact ⟨hfree, ih.mp (List.cons.inj h).2⟩
    · rintro ⟨hfree, hrest⟩
      rw [fields_of_not_mem hfree, ih.mpr hrest]
      rfl

/-- The fields of texts that each have a separator behind them; what follows the last one is
empty. -/
theorem fields_terminated (separator : Char) (texts : List (List Char)) :
    fields separator (texts.flatMap fun text => text ++ [separator]) =
      texts.flatMap (fields separator) ++ [[]] := by
  induction texts with
  | nil => rfl
  | cons text rest ih =>
    rw [List.flatMap_cons, List.append_assoc, List.singleton_append, fields_append, ih,
      List.flatMap_cons, List.append_assoc]

/-! ## Quoted texts -/

/-- The characters that break a line. -/
def isBreak (c : Char) : Bool := c = '\n' || c = '\r'

theorem not_isBreak_digitChar : ∀ d < 16, isBreak (Nat.digitChar d) = false := by decide

theorem not_isBreak_of_mem_quotedChar {c d : Char} (h : d ∈ quotedChar c) : isBreak d = false := by
  unfold quotedChar at h
  split at h
  case h_7 hlineFeed hreturn _ _ =>
    split at h
    · rcases List.mem_append.mp h with h | h
      · rcases List.mem_append.mp h with h | h
        · simp only [List.mem_cons, List.not_mem_nil, or_false] at h
          rcases h with rfl | rfl | rfl <;> decide
        · obtain ⟨digit, hdigit, rfl⟩ := mem_toDigits (by decide) h
          exact not_isBreak_digitChar digit hdigit
      · rw [List.mem_singleton.mp h]
        decide
    · rw [List.mem_singleton.mp h]
      simpa [isBreak] using ⟨hlineFeed, hreturn⟩
  all_goals
    simp only [List.mem_cons, List.not_mem_nil, or_false] at h
    rcases h with rfl | rfl <;> decide

/-- A quoted text stays on its line. -/
theorem not_isBreak_of_mem_quoted {s : String} {d : Char} (h : d ∈ (quoted s).toList) :
    isBreak d = false := by
  rw [quoted, String.toList_ofList] at h
  rcases List.mem_append.mp h with h | h
  · rcases List.mem_append.mp h with h | h
    · rw [List.mem_singleton.mp h]
      decide
    · obtain ⟨c, -, hc⟩ := List.mem_flatMap.mp h
      exact not_isBreak_of_mem_quotedChar hc
  · rw [List.mem_singleton.mp h]
    decide

theorem lineFeed_not_mem_quoted (s : String) : '\n' ∉ (quoted s).toList := fun h =>
  absurd (not_isBreak_of_mem_quoted h) (by decide)

end Typelib.Text
