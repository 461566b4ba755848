import Mathlib
import Typelib.Identifier
import Typelib.Module.Name
import Typelib.Proofs.Text.Segments

/-!
# Names and stems of modules

A module's name is told by its text (`ModuleName.text_injective`), but its stem tells it only if the
member part of the name has no colon in it: then the stem is the member part (`stem_of_not_mem`).
The names that are meant to be stored are `IsPlain`: the member part is a stem of letters, digits
and underscores, which is not the stem of the package's own file.
-/

namespace Typelib

namespace ModuleName

variable {name other : ModuleName}

theorem text_injective (h : name.text = other.text) : name = other := by
  simp only [text, String.append_assoc, String.append_right_inj] at h
  exact congrArg mk h

/-! ## The order of names -/

theorem not_below_self (name : ModuleName) : name.below name = false := by
  simp [below]

theorem below_trans {a b c : ModuleName} (hab : a.below b) (hbc : b.below c) : a.below c := by
  simp only [below, decide_eq_true_eq] at hab hbc ⊢
  exact hab.trans hbc

theorem below_total {a b : ModuleName} (hne : a ≠ b) (hab : a.below b = false) : b.below a := by
  simp only [below, decide_eq_false_iff_not, decide_eq_true_eq] at hab ⊢
  exact lt_of_le_of_ne (not_lt.mp hab) fun htext => hne (text_injective htext.symm)

/-! ## Stems -/

theorem toList_text (name : ModuleName) :
    name.text.toList = package.toList ++ ':' :: ':' :: name.member.toList := by
  simp [text]

/-- Without a colon in it, the member part of a name is its stem. -/
theorem stem_of_not_mem (h : ':' ∉ name.member.toList) : name.stem = name.member := by
  rw [stem, toList_text, Text.afterLastPair_append _ h]
  exact String.ofList_toList

/-- A name ends with its stem, and the last double colon in it stands right before that. -/
theorem exists_toList_text (name : ModuleName) :
    ¬[':', ':'] <:+: ':' :: name.stem.toList ∧
      ∃ before, name.text.toList = before ++ ':' :: ':' :: name.stem.toList := by
  rw [stem]
  rcases h : Text.afterLastPair ':' name.text.toList with _ | after
  · rw [toList_text] at h
    exact absurd (List.infix_append _ [':', ':'] _) (by
      simpa using Text.afterLastPair_eq_none_iff.mp h)
  · dsimp only
    rw [String.toList_ofList]
    exact Text.afterLastPair_eq_some_iff.mp h

/-- The member part of a name is its stem exactly if it has no double colon in it and does not
start with a colon. -/
theorem stem_eq_member_iff :
    name.stem = name.member ↔ ¬[':', ':'] <:+: ':' :: name.member.toList := by
  constructor
  · intro h
    rw [← h]
    exact (exists_toList_text name).1
  · intro h
    rw [stem, toList_text, Text.afterLastPair_eq_some_iff.mpr ⟨h, package.toList, rfl⟩]
    exact String.ofList_toList

/-- A stem is its own stem. -/
theorem stem_stem (name : ModuleName) : stem ⟨name.stem⟩ = name.stem :=
  stem_eq_member_iff.mpr (exists_toList_text name).1

/-- A stem has no character that its name does not have. -/
theorem not_mem_stem {c : Char} (hpackage : c ∉ package.toList) (hcolon : c ≠ ':')
    (hmember : c ∉ name.member.toList) : c ∉ name.stem.toList := by
  obtain ⟨-, before, hbefore⟩ := exists_toList_text name
  have htext : c ∉ name.text.toList := by
    rw [toList_text]
    simp [hpackage, hcolon, hmember]
  rw [hbefore] at htext
  simp only [List.mem_append, List.mem_cons, not_or] at htext
  exact htext.2.2.2

/-! ## Names of identifiers -/

theorem separator_not_mem (h : IsIdentifier name.member) {c : Char}
    (hc : isIdentifierChar c = false) : c ∉ name.member.toList := by
  intro hmem
  rw [h.chars c hmem] at hc
  cases hc

/-- The stem of an identifier is the identifier. -/
theorem stem_of_isIdentifier (h : IsIdentifier name.member) : name.stem = name.member :=
  stem_of_not_mem (separator_not_mem h (by decide))

/-! ## Plain names -/

/-- The name is the package's and a stem of letters, digits and underscores, and that is not the
stem of the package's own file. -/
structure IsPlain (name : ModuleName) : Prop where
  chars : ∀ c ∈ name.member.toList, isIdentifierChar c
  nonempty : name.member ≠ ""
  apart : name.member ≠ packageStem

instance : DecidablePred IsPlain := fun name =>
  decidable_of_iff (name.member.toList.all isIdentifierChar ∧ name.member ≠ "" ∧
      name.member ≠ packageStem) <| by
    rw [List.all_eq_true]
    exact ⟨fun ⟨chars, nonempty, apart⟩ => ⟨chars, nonempty, apart⟩,
      fun h => ⟨h.chars, h.nonempty, h.apart⟩⟩

theorem IsPlain.not_mem (h : name.IsPlain) {c : Char} (hc : isIdentifierChar c = false) :
    c ∉ name.member.toList := by
  intro hmem
  rw [h.chars c hmem] at hc
  cases hc

theorem isPlain_of_isIdentifier (h : IsIdentifier name.member) : name.IsPlain where
  chars := h.chars
  nonempty hempty := by
    obtain ⟨c, rest, hlist, -⟩ := h.start
    rw [hempty] at hlist
    cases hlist
  apart hpackage := by
    refine h.notKeyword ?_
    rw [hpackage]
    decide

theorem IsPlain.stem_eq (h : name.IsPlain) : name.stem = name.member :=
  stem_of_not_mem (h.not_mem (by decide))

theorem IsPlain.stem_injective (h : name.IsPlain) (hother : other.IsPlain)
    (heq : name.stem = other.stem) : name = other := by
  rw [h.stem_eq, hother.stem_eq] at heq
  exact congrArg ModuleName.mk heq

theorem IsPlain.lineFeed_not_mem_text (h : name.IsPlain) : '\n' ∉ name.text.toList := by
  rw [toList_text]
  simp only [List.mem_append, List.mem_cons, not_or]
  exact ⟨by decide, by decide, by decide, h.not_mem (by decide)⟩

end ModuleName

end Typelib
