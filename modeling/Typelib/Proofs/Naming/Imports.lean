import Mathlib
import Typelib.Symbols

/-!
# Sorted names and imports

`ascending` gives a strictly ascending list when the order is a strict total one
(`pairwise_ascending`), so `sortedTexts` names nothing twice, and what a list gives depends on its
members only (`ascending_congr`).  Hence the imports of some used
names name every known symbol among them exactly once (`Symbols.mem_imports`,
`Symbols.nodup_imports`).
-/

namespace Typelib

universe u

section Ascending

variable {α : Type u} [DecidableEq α] {below : α → α → Bool}

theorem pairwise_place (htrans : ∀ a b c, below a b → below b c → below a c)
    (htotal : ∀ a b, a ≠ b → below a b = false → below b a) {a : α} {sorted : List α}
    (hsorted : sorted.Pairwise fun x y => below x y) :
    (place below a sorted).Pairwise fun x y => below x y := by
  induction sorted with
  | nil => simp [place]
  | cons b rest ih =>
    obtain ⟨hfirst, hrest⟩ := List.pairwise_cons.mp hsorted
    by_cases heq : a = b
    · simpa [place, heq] using hsorted
    · by_cases hbelow : below a b
      · rw [place, if_neg heq, if_pos hbelow]
        refine List.pairwise_cons.mpr ⟨fun c hc => ?_, hsorted⟩
        rcases List.mem_cons.mp hc with rfl | hc
        · exact hbelow
        · exact htrans a b c hbelow (hfirst c hc)
      · rw [place, if_neg heq, if_neg hbelow]
        refine List.pairwise_cons.mpr ⟨fun c hc => ?_, ih hrest⟩
        rcases mem_place.mp hc with rfl | hc
        · exact htotal c b heq (by simpa using hbelow)
        · exact hfirst c hc

/-- Sorting by a strict total order gives a strictly ascending list. -/
theorem pairwise_ascending (htrans : ∀ a b c, below a b → below b c → below a c)
    (htotal : ∀ a b, a ≠ b → below a b = false → below b a) (xs : List α) :
    (ascending below xs).Pairwise fun x y => below x y := by
  suffices ∀ sorted : List α, (sorted.Pairwise fun x y => below x y) →
      (xs.foldl (fun sorted a => place below a sorted) sorted).Pairwise fun x y => below x y from
    this [] .nil
  induction xs with
  | nil => exact fun sorted hsorted => hsorted
  | cons a rest ih => exact fun sorted hsorted => ih _ (pairwise_place htrans htotal hsorted)

/-- Lists with the same members give the same ascending list. -/
theorem ascending_congr (hirrefl : ∀ a, below a a = false)
    (htrans : ∀ a b c, below a b → below b c → below a c)
    (htotal : ∀ a b, a ≠ b → below a b = false → below b a) {xs ys : List α}
    (hmem : ∀ a, a ∈ xs ↔ a ∈ ys) : ascending below xs = ascending below ys := by
  have hsorted (zs : List α) := pairwise_ascending htrans htotal zs
  have hnodup (zs : List α) : (ascending below zs).Nodup := by
    refine (hsorted zs).imp fun {a b} hab heq => ?_
    rw [heq, hirrefl] at hab
    cases hab
  refine List.Perm.eq_of_pairwise (fun a b _ _ hab hba => ?_) (hsorted xs) (hsorted ys) ?_
  · have haa := htrans a b a hab hba
    rw [hirrefl] at haa
    cases haa
  · rw [List.perm_ext_iff_of_nodup (hnodup xs) (hnodup ys)]
    intro a
    rw [mem_ascending, mem_ascending, hmem]

end Ascending

theorem mem_sortedTexts {name : String} {xs : List String} : name ∈ sortedTexts xs ↔ name ∈ xs :=
  mem_ascending

theorem nodup_sortedTexts (xs : List String) : (sortedTexts xs).Nodup := by
  have htrans : ∀ a b c : String, decide (a < b) → decide (b < c) → decide (a < c) := by
    intro a b c hab hbc
    simp only [decide_eq_true_eq] at hab hbc ⊢
    exact lt_trans hab hbc
  have htotal : ∀ a b : String, a ≠ b → decide (a < b) = false → decide (b < a) := by
    intro a b hne hnot
    simp only [decide_eq_false_iff_not, decide_eq_true_eq] at hnot ⊢
    exact lt_of_le_of_ne (not_lt.mp hnot) hne.symm
  refine (pairwise_ascending htrans htotal xs).imp fun {a b} hab => ?_
  exact ne_of_lt (by simpa using hab)

namespace Symbols

variable {known : Symbols} {used : List String} {name : String}

/-- The imports bring in the known symbols among the used names. -/
theorem mem_imports :
    name ∈ (known.imports used).flatMap Import.names ↔ name ∈ used ∧ known.contains name := by
  simp only [imports, List.mem_flatMap, List.mem_map, mem_sortedTexts,
    List.mem_filterMap]
  constructor
  · rintro ⟨-, ⟨owner, -, rfl⟩, hname⟩
    obtain ⟨hused, howner⟩ := List.mem_filter.mp (mem_sortedTexts.mp hname)
    exact ⟨hused, by simp [Table.contains, of_decide_eq_true howner]⟩
  · rintro ⟨hused, hknown⟩
    obtain ⟨owner, howner⟩ := Option.isSome_iff_exists.mp hknown
    refine ⟨_, ⟨owner, ⟨name, hused, howner⟩, rfl⟩, mem_sortedTexts.mpr ?_⟩
    exact List.mem_filter.mpr ⟨hused, decide_eq_true howner⟩

end Symbols

end Typelib
