import Mathlib
import Typelib.LocalNames

/-!
# Free names

`nextFree` looks for a free name among finitely many candidates only.  Names with different
numbers differ (`numbered_injective`), so there are fewer candidates tried in vain than taken names
(`lt_card_of_taken`), and one of the candidates is free (`exists_free_candidate`); hence the search
never fails, and its result is free (`nextFree_not_mem`): the preferred name if that is free
(`nextFree_of_not_mem`), and else the one with the least free number (`nextFree_of_mem`).
-/

namespace Typelib

theorem numbered_injective {preferred : String} {m n : Nat}
    (h : numbered preferred m = numbered preferred n) : m = n :=
  Nat.repr_inj.mp ((String.append_right_inj _).mp h)

theorem numbered_ne (preferred : String) (n : Nat) : numbered preferred n ≠ preferred := by
  intro h
  rw [numbered, String.append_assoc, String.append_eq_left_iff] at h
  have hlength : ("_" ++ toString n).length = 0 := by rw [h]; rfl
  rw [String.length_append] at hlength
  exact absurd hlength (by simp)

/-- The preferred name and the candidates before a number are all different, so when all of them are
taken, there are more taken names than such candidates. -/
theorem lt_card_of_taken {taken : List String} {preferred : String} {k : Nat}
    (hpreferred : preferred ∈ taken) (htaken : ∀ j < k, numbered preferred (j + 2) ∈ taken) :
    k < taken.toFinset.card := by
  let candidates := (List.range k).map fun j => numbered preferred (j + 2)
  have hdistinct : candidates.Nodup := by
    refine List.Nodup.map (fun m n h => ?_) List.nodup_range
    have hnumbers : m + 2 = n + 2 := numbered_injective h
    omega
  have hother : preferred ∉ candidates := by
    intro hmem
    obtain ⟨j, -, hj⟩ := List.mem_map.mp hmem
    exact numbered_ne preferred (j + 2) hj
  have hall : (preferred :: candidates).toFinset ⊆ taken.toFinset := by
    intro name hname
    rw [List.mem_toFinset] at hname ⊢
    rcases List.mem_cons.mp hname with rfl | hname
    · exact hpreferred
    · obtain ⟨j, hj, rfl⟩ := List.mem_map.mp hname
      exact htaken j (List.mem_range.mp hj)
  calc k < (preferred :: candidates).length := by simp [candidates]
    _ = (preferred :: candidates).toFinset.card :=
        (List.toFinset_card_of_nodup (List.nodup_cons.mpr ⟨hother, hdistinct⟩)).symm
    _ ≤ taken.toFinset.card := Finset.card_le_card hall

/-- When the preferred name is taken, one of as many candidates as there are taken names is free. -/
theorem exists_free_candidate {taken : List String} {preferred : String}
    (htaken : preferred ∈ taken) :
    ∃ k < taken.length, numbered preferred (k + 2) ∉ taken := by
  by_contra hnone
  push Not at hnone
  have hlt : taken.length < taken.toFinset.card := lt_card_of_taken htaken hnone
  have hle : taken.toFinset.card ≤ taken.length := taken.toFinset_card_le
  omega

/-- A free name is kept. -/
theorem nextFree_of_not_mem {taken : List String} {preferred : String}
    (h : preferred ∉ taken) : nextFree taken preferred = preferred :=
  if_neg h

/-- A taken name gets the least number, from 2 on, that makes it free. -/
theorem nextFree_of_mem {taken : List String} {preferred : String} (h : preferred ∈ taken) :
    ∃ k < taken.length, nextFree taken preferred = numbered preferred (k + 2) ∧
      numbered preferred (k + 2) ∉ taken ∧ ∀ j < k, numbered preferred (j + 2) ∈ taken := by
  have hexists := exists_free_candidate h
  obtain ⟨hlt, hfree⟩ := Nat.find_spec hexists
  have hbefore : ∀ j < Nat.find hexists, numbered preferred (j + 2) ∈ taken := by
    intro j hj
    by_contra hmem
    exact Nat.find_min hexists hj ⟨Nat.lt_trans hj hlt, hmem⟩
  refine ⟨Nat.find hexists, hlt, ?_, hfree, hbefore⟩
  have hfound : ((List.range taken.length).find? fun k => numbered preferred (k + 2) ∉ taken) =
      some (Nat.find hexists) := by
    rw [List.find?_range_eq_some]
    refine ⟨by simpa using hfree, List.mem_range.mpr hlt, fun j hj => ?_⟩
    simpa using hbefore j hj
  simp only [nextFree, if_pos h, List.find?_map, Function.comp_def, hfound, Option.map_some,
    Option.getD_some]

/-- Whatever is taken, the result is the preferred name, with a number at its end or without. -/
theorem nextFree_eq_or_numbered (taken : List String) (preferred : String) :
    nextFree taken preferred = preferred ∨
      ∃ n, nextFree taken preferred = numbered preferred n := by
  by_cases h : preferred ∈ taken
  · obtain ⟨k, -, heq, -⟩ := nextFree_of_mem h
    exact .inr ⟨k + 2, heq⟩
  · exact .inl (nextFree_of_not_mem h)

theorem nextFree_not_mem (taken : List String) (preferred : String) :
    nextFree taken preferred ∉ taken := by
  by_cases h : preferred ∈ taken
  · obtain ⟨k, -, heq, hfree, -⟩ := nextFree_of_mem h
    rwa [heq]
  · rwa [nextFree_of_not_mem h]

/-- Exactly the free names are kept. -/
theorem nextFree_eq_self_iff {taken : List String} {preferred : String} :
    nextFree taken preferred = preferred ↔ preferred ∉ taken := by
  constructor
  · intro h hmem
    rw [← h] at hmem
    exact nextFree_not_mem taken preferred hmem
  · exact nextFree_of_not_mem

end Typelib
