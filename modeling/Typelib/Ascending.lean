/-!
# Distinct members in ascending order

`ascending` lists the distinct members of a list in ascending order of a key, which is how sets
of names and of library identities are reported: two lists with the same members give the same
report.
-/

namespace Typelib

universe u v

variable {α : Type u}

/-- Puts `a` before the first larger member, unless it is there already. -/
def place (below : α → α → Bool) [DecidableEq α] (a : α) : List α → List α
  | [] => [a]
  | b :: rest =>
    if a = b then b :: rest
    else if below a b then a :: b :: rest
    else b :: place below a rest

/-- The distinct members of a list, smallest first. -/
def ascending (below : α → α → Bool) [DecidableEq α] (xs : List α) : List α :=
  xs.foldl (fun sorted a => place below a sorted) []

theorem mem_place {below : α → α → Bool} [DecidableEq α] {a b : α} {xs : List α} :
    b ∈ place below a xs ↔ b = a ∨ b ∈ xs := by
  induction xs with
  | nil => simp [place]
  | cons c rest ih =>
    by_cases h : a = c
    · subst h
      simp [place]
    · by_cases hb : below a c
      · simp [place, h, hb]
      · simp only [place, h, hb, if_false, List.mem_cons, ih, Bool.false_eq_true]
        exact or_left_comm

/-- Sorting keeps the members. -/
theorem mem_ascending {below : α → α → Bool} [DecidableEq α] {b : α} {xs : List α} :
    b ∈ ascending below xs ↔ b ∈ xs := by
  suffices ∀ sorted, b ∈ xs.foldl (fun sorted a => place below a sorted) sorted ↔
      b ∈ sorted ∨ b ∈ xs by
    simpa [ascending] using this []
  induction xs with
  | nil => simp
  | cons a rest ih =>
    intro sorted
    rw [List.foldl_cons, ih, mem_place, List.mem_cons]
    exact (or_congr_left or_comm).trans or_assoc

/-- The distinct texts of a list, in order of their code points. -/
def sortedTexts (xs : List String) : List String := ascending (fun a b => decide (a < b)) xs

end Typelib
