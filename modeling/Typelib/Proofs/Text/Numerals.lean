import Mathlib
import Typelib.Double.Text

/-!
# Numerals

A finite double is written with digits, a sign, a point and the mark of an exponent only
(`Double.isNumeralChar_of_mem_text`), in every style: the digits are those of a natural number,
and the rest is put around them.
-/

namespace Typelib

/-- The characters of decimal numbers, with a sign, a point and an exponent. -/
def isNumeralChar (c : Char) : Bool := c.isDigit || c = '-' || c = '.' || c = 'e'

theorem isNumeralChar_of_isDigit {c : Char} (h : c.isDigit) : isNumeralChar c := by
  simp [isNumeralChar, h]

theorem isNumeralChar_of_mem_toDigits {n : Nat} {c : Char} (h : c ∈ Nat.toDigits 10 n) :
    isNumeralChar c :=
  isNumeralChar_of_isDigit (Nat.isDigit_of_mem_toDigits (by decide) (by decide) h)

namespace Decimal

theorem isDigit_ofScaled {n : Nat} {power : Int} {c : Char} (h : c ∈ (ofScaled n power).digits) :
    c.isDigit := by
  rw [ofScaled, List.mem_reverse] at h
  have hmem := List.mem_reverse.mp ((List.dropWhile_sublist _).subset h)
  exact Nat.isDigit_of_mem_toDigits (by decide) (by decide) hmem

variable {d : Decimal} {c : Char}

theorem isNumeralChar_of_mem_positional (hdigits : ∀ c ∈ d.digits, c.isDigit)
    (h : c ∈ d.positional) : isNumeralChar c := by
  have hzero : isNumeralChar '0' := rfl
  have hpoint : isNumeralChar '.' := rfl
  have hdigit : ∀ c ∈ d.digits, isNumeralChar c := fun c hc =>
    isNumeralChar_of_isDigit (hdigits c hc)
  have hzeros : ∀ n, ∀ c ∈ List.replicate n '0', isNumeralChar c := fun n c hc =>
    (List.mem_replicate.mp hc).2 ▸ hzero
  unfold positional at h
  split at h
  · simp only [List.mem_append, List.mem_cons, List.not_mem_nil, or_false] at h
    rcases h with ((rfl | rfl) | h) | h
    · exact hzero
    · exact hpoint
    · exact hzeros _ c h
    · exact hdigit c h
  · have hpadded {places : Nat} (hc : c ∈ d.digits ++ List.replicate places '0') :
        isNumeralChar c :=
      (List.mem_append.mp hc).elim (hdigit c) (hzeros _ c)
    simp only [List.mem_append, List.mem_singleton] at h
    rcases h with (h | rfl) | h
    · exact hpadded (List.mem_of_mem_take h)
    · exact hpoint
    · split at h
      · exact List.mem_singleton.mp h ▸ hzero
      · exact hpadded (List.mem_of_mem_drop h)

theorem isNumeralChar_of_mem_scientific (hdigits : ∀ c ∈ d.digits, c.isDigit)
    (h : c ∈ d.scientific) : isNumeralChar c := by
  have hdigit : ∀ c ∈ d.digits, isNumeralChar c := fun c hc =>
    isNumeralChar_of_isDigit (hdigits c hc)
  simp only [scientific, List.mem_append, List.mem_cons] at h
  rcases h with (h | h) | rfl | h
  · exact hdigit c (List.mem_of_mem_take h)
  · split at h
    · cases h
    · rcases List.mem_cons.mp h with rfl | h
      · rfl
      · exact hdigit c (List.mem_of_mem_drop h)
  · rfl
  · split at h
    · rcases List.mem_cons.mp h with rfl | h
      · rfl
      · exact isNumeralChar_of_mem_toDigits h
    · exact isNumeralChar_of_mem_toDigits h

theorem isNumeralChar_of_mem_text {style : NumberStyle} (hdigits : ∀ c ∈ d.digits, c.isDigit)
    (h : c ∈ d.text style) : isNumeralChar c := by
  unfold text at h
  split at h
  · exact isNumeralChar_of_mem_positional hdigits h
  · exact isNumeralChar_of_mem_scientific hdigits h

end Decimal

theorem Double.isDigit_of_shortest? {tie : Tie} {d : Double} {decimal : Decimal}
    (h : d.shortest? tie = some decimal) : ∀ c ∈ decimal.digits, c.isDigit := by
  obtain ⟨n, -, hpoint⟩ := List.exists_of_findSome?_eq_some h
  obtain ⟨m, -, rfl⟩ := Option.map_eq_some_iff.mp hpoint
  exact fun c hc => Decimal.isDigit_ofScaled hc

namespace Double

theorem isNumeralChar_of_mem_text {style : NumberStyle} {c : Char} (d : Double)
    (hfinite : d.isFinite) (hc : c ∈ (d.text style).toList) : isNumeralChar c := by
  have hnumber : d.isNaN = false := by simp [Double.isNaN, hfinite]
  simp only [Double.text, Double.absoluteText, hnumber, hfinite, String.toList_ofList,
    List.mem_append] at hc
  rcases hc with hc | hc
  · split at hc
    · rw [List.mem_singleton.mp hc]
      rfl
    · cases hc
  · simp only [Bool.false_eq_true, Bool.not_true, if_false] at hc
    split at hc
    · have hzero : ['0', '.', '0'].all isNumeralChar := by decide
      exact List.all_eq_true.mp hzero c hc
    · cases hshortest : d.shortest? style.tie with
      | none =>
        rw [hshortest] at hc
        cases hc
      | some decimal =>
        rw [hshortest] at hc
        exact Decimal.isNumeralChar_of_mem_text (Double.isDigit_of_shortest? hshortest) hc

end Double

end Typelib
