import Typelib.Identifier
import Typelib.Proofs.Text.Spelling

/-!
# Words

`identifier` changes a text in three steps.  None of them undoes what an earlier one did, so every
text is made into an identifier (`identifier_isIdentifier`), and each of them leaves a text alone
that does not need it (`withUnderscores_eq_self`, `withStart_eq_self`), so an identifier is left as
it is (`IsIdentifier.identifier_eq_self`).  The identifiers are the words of ASCII letters, digits
and underscores that are no keywords (`isWord_iff`); `words_kept` says that these are the texts
that are left as they are, and the ones that texts are made into.
-/

namespace Typelib

/-! ## What the steps make -/

theorem withUnderscores_chars (cs : List Char) : ∀ c ∈ withUnderscores cs, isIdentifierChar c := by
  intro c hc
  obtain ⟨d, -, rfl⟩ := List.mem_map.mp hc
  by_cases hd : isIdentifierChar d
  · rwa [if_pos hd]
  · rw [if_neg hd]
    decide

theorem withStart_chars {cs : List Char} (h : ∀ c ∈ cs, isIdentifierChar c) :
    ∀ c ∈ withStart cs, isIdentifierChar c := by
  have hunderscore : isIdentifierChar '_' := by decide
  intro c hc
  unfold withStart at hc
  split at hc
  · simp_all
  · split at hc
    · rcases List.mem_cons.mp hc with rfl | hc
      · exact hunderscore
      · exact h c hc
    · exact h c hc

theorem withStart_start (cs : List Char) :
    ∃ c rest, withStart cs = c :: rest ∧ c.isDigit = false := by
  unfold withStart
  split
  · exact ⟨'_', [], rfl, by decide⟩
  · rename_i c rest
    split
    · exact ⟨'_', c :: rest, rfl, by decide⟩
    · rename_i hc
      exact ⟨c, rest, rfl, by simpa using hc⟩

/-- No keyword becomes a keyword by an underscore at its end. -/
theorem withoutKeyword_not_mem (s : String) : withoutKeyword s ∉ keywords := by
  have hlonger : ∀ keyword ∈ keywords, keyword ++ "_" ∉ keywords := by decide
  unfold withoutKeyword
  split
  · exact hlonger s ‹_›
  · assumption

/-- Every text is made into an identifier. -/
theorem identifier_isIdentifier (text : String) : IsIdentifier (identifier text) := by
  have hunderscore : isIdentifierChar '_' := by decide
  have hchars := withStart_chars (withUnderscores_chars text.toList)
  obtain ⟨c, rest, hlist, hdigit⟩ := withStart_start (withUnderscores text.toList)
  refine ⟨?_, ?_, withoutKeyword_not_mem _⟩
  · intro d hd
    unfold identifier withoutKeyword at hd
    split at hd <;> simp only [String.toList_append, String.toList_ofList, List.mem_append] at hd
    · rcases hd with hd | hd
      · exact hchars d hd
      · simp_all
    · exact hchars d hd
  · unfold identifier withoutKeyword
    split
    · exact ⟨c, rest ++ "_".toList, by simp [hlist], hdigit⟩
    · exact ⟨c, rest, by simp [hlist], hdigit⟩

/-! ## What the steps leave alone -/

theorem withUnderscores_eq_self {cs : List Char} (h : ∀ c ∈ cs, isIdentifierChar c) :
    withUnderscores cs = cs := by
  have hkept : ∀ c ∈ cs, (if isIdentifierChar c then c else '_') = c :=
    fun c hc => if_pos (h c hc)
  calc withUnderscores cs = cs.map id := List.map_congr_left hkept
    _ = cs := List.map_id cs

theorem withStart_eq_self {cs : List Char} (h : ∃ c rest, cs = c :: rest ∧ c.isDigit = false) :
    withStart cs = cs := by
  obtain ⟨c, rest, rfl, hdigit⟩ := h
  simp [withStart, hdigit]

/-- An identifier is left as it is. -/
theorem IsIdentifier.identifier_eq_self {text : String} (h : IsIdentifier text) :
    identifier text = text := by
  rw [identifier, withUnderscores_eq_self h.chars, withStart_eq_self h.start,
    String.ofList_toList]
  exact if_neg h.notKeyword

/-! ## Words -/

/-- The characters of words: ASCII letters, digits and the underscore. -/
def wordChars : Set Char := Set.Icc 'A' 'Z' ∪ Set.Icc 'a' 'z' ∪ Set.Icc '0' '9' ∪ {'_'}

theorem mem_wordChars {c : Char} : c ∈ wordChars ↔ isIdentifierChar c := by
  simp only [wordChars, Set.mem_union, Set.mem_Icc, Set.mem_singleton_iff, isIdentifierChar,
    isLetterOrDigit, Char.isAlphanum, Char.isAlpha, Char.isUpper, Char.isLower, Char.isDigit,
    Char.le_def, Bool.or_eq_true, Bool.and_eq_true, decide_eq_true_eq, ge_iff_le]

/-- A text of letters, digits and underscores that is not empty, does not start with a digit and is
no keyword. -/
structure IsWord (text : String) : Prop where
  nonempty : text ≠ ""
  chars : ∀ c ∈ text.toList, c ∈ wordChars
  start : ∀ c ∈ text.toList.head?, c ∉ Set.Icc '0' '9'
  notKeyword : text ∉ keywords

theorem isWord_iff {text : String} : IsWord text ↔ IsIdentifier text := by
  constructor
  · rintro ⟨nonempty, chars, start, notKeyword⟩
    refine ⟨fun c hc => mem_wordChars.mp (chars c hc), ?_, notKeyword⟩
    obtain ⟨c, rest, hlist⟩ := List.exists_cons_of_ne_nil (mt String.toList_eq_nil_iff.mp nonempty)
    have hdigit : ¬c.isDigit := by
      rw [Text.isDigit_iff]
      exact start c (by rw [hlist]; rfl)
    exact ⟨c, rest, hlist, by simpa using hdigit⟩
  · rintro ⟨chars, ⟨c, rest, hlist, hdigit⟩, notKeyword⟩
    refine ⟨?_, fun c hc => mem_wordChars.mpr (chars c hc), fun d hd => ?_, notKeyword⟩
    · rintro rfl
      cases hlist
    · rw [hlist] at hd
      obtain rfl := Option.mem_some_iff.mp hd
      rw [Set.mem_Icc, ← Text.isDigit_iff, hdigit]
      decide

/-- The texts that are left as they are are the words, and every text is made into a word.  So
making an identifier twice is making it once, and the texts that are left as they are are the
ones that texts are made into. -/
theorem words_kept :
    (∀ text, identifier text = text ↔ IsWord text) ∧
    (∀ text, IsWord (identifier text)) ∧
    (∀ text, identifier (identifier text) = identifier text) ∧
    Function.fixedPoints identifier = Set.range identifier := by
  have hword (text : String) : IsWord (identifier text) :=
    isWord_iff.mpr (identifier_isIdentifier text)
  have hkept {text : String} (h : IsWord text) : identifier text = text :=
    (isWord_iff.mp h).identifier_eq_self
  refine ⟨fun text => ⟨fun h => h ▸ hword text, hkept⟩, hword, fun text => hkept (hword text), ?_⟩
  apply Set.Subset.antisymm
  · intro text htext
    exact ⟨text, htext⟩
  · rintro _ ⟨text, rfl⟩
    exact hkept (hword text)

end Typelib
