import Typelib.Proofs.Naming.Stems
import Typelib.Proofs.Text.Reading

/-!
# Reading identifiers

The text that an identifier is written as is read as that identifier (`Guid.parse?_braced`).
-/

namespace Typelib.Guid

open Text

theorem toList_hyphenated (g : Guid) :
    g.hyphenated.toList = ['-'].intercalate g.upperGroups := by
  rw [hyphenated, String.toList_ofList, separated, map_intercalate Char.toUpper (by decide)]
  rfl

/-- A written identifier consists of hexadecimal digits in upper case and hyphens. -/
theorem mem_hyphenated {g : Guid} {c : Char} (h : c ∈ g.hyphenated.toList) :
    c = '-' ∨ ∃ d < 16, c = (Nat.digitChar d).toUpper := by
  rw [toList_hyphenated] at h
  exact (mem_intercalate h).imp_right fun ⟨_, hgroup, hc⟩ => mem_upperGroups hgroup hc

theorem isBlank_of_mem_hyphenated {g : Guid} {c : Char} (h : c ∈ g.hyphenated.toList) :
    isBlank c = false := by
  rcases mem_hyphenated h with rfl | ⟨d, hd, rfl⟩
  · decide
  · exact (by decide : ∀ d < 16, isBlank (Nat.digitChar d).toUpper = false) d hd

theorem hyphen_not_mem_upperGroups {g : Guid} {group : List Char} (h : group ∈ g.upperGroups) :
    '-' ∉ group := by
  intro hmem
  obtain ⟨d, hd, heq⟩ := mem_upperGroups h hmem
  exact (by decide : ∀ d < 16, '-' ≠ (Nat.digitChar d).toUpper) d hd heq

theorem natural?_digits (g : Guid) :
    natural? 16 (g.digits.map Char.toUpper) = some g.value.toNat := by
  have hne : g.digits.map Char.toUpper ≠ [] :=
    List.ne_nil_of_length_pos (by simp [length_digits])
  have hbound : g.value.toNat < 16 ^ 32 := by
    have hlt := g.value.isLt
    omega
  rw [natural?_of_ne_nil hne, digits, digitsValue?_fixedHex digitValue?_toUpper, Nat.zero_mul,
    Nat.zero_add, Nat.mod_eq_of_lt hbound]

theorem ofGroups?_hyphenated (g : Guid) : ofGroups? g.hyphenated.toList = some g := by
  have hfields : fields '-' g.hyphenated.toList = g.upperGroups := by
    rw [toList_hyphenated]
    exact fields_intercalate (List.cons_ne_nil _ _) fun _ => hyphen_not_mem_upperGroups
  simp only [ofGroups?, hfields, lengths_upperGroups, if_true, flatten_upperGroups,
    natural?_digits, Option.map_some, BitVec.ofNat_toNat, BitVec.setWidth_eq]

theorem toList_braced (g : Guid) :
    g.braced.toList = '\x7b' :: (g.hyphenated.toList ++ ['\x7d']) := by
  rw [braced, String.toList_append, String.toList_append]
  rfl

theorem withoutBraces_braced (g : Guid) :
    withoutBraces g.braced.toList = g.hyphenated.toList := by
  simp [toList_braced, withoutBraces]

/-- A written identifier is read again. -/
theorem parse?_braced (g : Guid) : parse? g.braced = some g := by
  have hblank : ∀ c ∈ g.braced.toList, isBlank c = false := by
    intro c hc
    rw [toList_braced] at hc
    rcases List.mem_cons.mp hc with rfl | hc
    · decide
    · rcases List.mem_append.mp hc with hc | hc
      · exact isBlank_of_mem_hyphenated hc
      · rw [List.mem_singleton.mp hc]
        decide
  rw [parse?, trim_eq_self hblank, withoutBraces_braced, ofGroups?_hyphenated]

end Typelib.Guid
