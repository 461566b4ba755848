import Typelib.Naming
import Typelib.Proofs.Naming.Words
import Typelib.Proofs.Text.Digits
import Typelib.Proofs.Text.Segments

/-!
# Wrapper stems and friendly stems

The stem of a wrapper is an underscore and eight parts joined by underscores
(`wrapperStem_toList`), and no part holds an underscore, so the parts can be read off the stem.
From this follow the three facts about names that the theory of generators rests on.

* `wrapperName_injective`: different libraries have different wrapper names.
* `friendlyName_ne_wrapperName`: no friendly module has the name of a wrapper.
* `wrapperName_isIdentifier`, `friendlyName_isIdentifier`: the member part of a generated name is
  an identifier, so it is the whole stem of the module's file.
-/

namespace Typelib

/-! ## Parts of a wrapper stem -/

namespace Guid

/-- The groups of digits in upper case. -/
def upperGroups (g : Guid) : List (List Char) :=
  (groups groupLengths g.digits).map (·.map Char.toUpper)

theorem length_digits (g : Guid) : g.digits.length = 32 := Text.length_fixedHex

theorem flatten_groups (lengths : List Nat) (cs : List Char) :
    (groups lengths cs).flatten = cs.take lengths.sum := by
  induction lengths generalizing cs with
  | nil => simp [groups]
  | cons n rest ih => simp [groups, ih, List.take_add]

/-- The groups together are all the digits. -/
theorem flatten_upperGroups (g : Guid) :
    g.upperGroups.flatten = g.digits.map Char.toUpper := by
  have hall : (groups groupLengths g.digits).flatten = g.digits := by
    rw [flatten_groups]
    exact List.take_of_length_le (by simp [length_digits, groupLengths])
  rw [upperGroups, ← List.map_flatten, hall]

theorem lengths_upperGroups (g : Guid) : g.upperGroups.map List.length = groupLengths := by
  simp [upperGroups, groups, groupLengths, length_digits]

theorem mem_upperGroups {g : Guid} {group : List Char} {c : Char} (hgroup : group ∈ g.upperGroups)
    (hc : c ∈ group) : ∃ d < 16, c = (Nat.digitChar d).toUpper := by
  have hmem : c ∈ g.upperGroups.flatten := List.mem_flatten.mpr ⟨group, hgroup, hc⟩
  rw [flatten_upperGroups, List.mem_map] at hmem
  obtain ⟨lower, hlower, rfl⟩ := hmem
  obtain ⟨d, hd, rfl⟩ := Text.mem_fixedHex hlower
  exact ⟨d, hd, rfl⟩

theorem upperGroups_injective {g h : Guid} (heq : g.upperGroups = h.upperGroups) : g = h := by
  have hdigits : g.digits.map Char.toUpper = h.digits.map Char.toUpper := by
    rw [← flatten_upperGroups, heq, flatten_upperGroups]
  have hbound (v : BitVec 128) : v.toNat < 16 ^ 32 := by
    have hlt := v.isLt
    omega
  have hmod := Text.fixedHex_upper_injective hdigits
  rw [Nat.mod_eq_of_lt (hbound g.value), Nat.mod_eq_of_lt (hbound h.value)] at hmod
  exact congrArg Guid.mk (BitVec.eq_of_toNat_eq hmod)

end Guid

namespace Identity

/-- The three numbers of a wrapper stem in decimal: locale and version. -/
def stemNumbers (i : Identity) : List (List Char) :=
  [Nat.toDigits 10 i.lcid.toNat, Nat.toDigits 10 i.major.toNat, Nat.toDigits 10 i.minor.toNat]

/-- The parts of a wrapper stem. -/
def stemParts (i : Identity) : List (List Char) := i.libid.upperGroups ++ i.stemNumbers

theorem wrapperStem_toList (i : Identity) :
    i.wrapperStem.toList = '_' :: ['_'].intercalate i.stemParts := by
  have hgroups : (i.libid.separated '_').map Char.toUpper =
      ['_'].intercalate i.libid.upperGroups :=
    Text.map_intercalate Char.toUpper (by decide) _
  have hjoin : ['_'].intercalate i.stemParts =
      ['_'].intercalate i.libid.upperGroups ++ '_' :: ['_'].intercalate i.stemNumbers := by
    simp [stemParts, Guid.upperGroups, Guid.groups, Guid.groupLengths, stemNumbers]
  have hunderscore : (toString "_").toList = ['_'] := by decide
  rw [hjoin, ← hgroups]
  simp [wrapperStem, stemNumbers, hunderscore]

theorem mem_stemNumbers {i : Identity} {number : List Char} (h : number ∈ i.stemNumbers) :
    number ≠ [] ∧ ∀ c ∈ number, c.isDigit := by
  simp only [stemNumbers, List.mem_cons, List.not_mem_nil, or_false] at h
  rcases h with rfl | rfl | rfl <;>
    exact ⟨Nat.toDigits_ne_nil, fun c hc => Nat.isDigit_of_mem_toDigits (by decide) (by decide) hc⟩

theorem isUpperHex_digit : ∀ d < 16, isUpperHex (Nat.digitChar d).toUpper := by decide

/-- Every character of a part is a digit of a hexadecimal number in upper case. -/
theorem mem_stemParts {i : Identity} {part : List Char} {c : Char} (hpart : part ∈ i.stemParts)
    (hc : c ∈ part) : isUpperHex c := by
  rcases List.mem_append.mp hpart with hgroup | hnumber
  · obtain ⟨d, hd, rfl⟩ := Guid.mem_upperGroups hgroup hc
    exact isUpperHex_digit d hd
  · simp [isUpperHex, (mem_stemNumbers hnumber).2 c hc]

/-- The parts are what stands between the underscores. -/
theorem fields_stemParts (i : Identity) :
    Text.fields '_' (['_'].intercalate i.stemParts) = i.stemParts := by
  refine Text.fields_intercalate (by simp [stemParts, stemNumbers]) fun part hpart hmem => ?_
  exact absurd (mem_stemParts hpart hmem) (by decide)

/-! ## Names of different libraries -/

theorem wrapperStem_injective {a b : Identity} (h : a.wrapperStem = b.wrapperStem) : a = b := by
  have hjoined : ['_'].intercalate a.stemParts = ['_'].intercalate b.stemParts := by
    have hlist := congrArg String.toList h
    rw [wrapperStem_toList, wrapperStem_toList] at hlist
    exact (List.cons.inj hlist).2
  have hparts : a.stemParts = b.stemParts := by
    rw [← fields_stemParts a, hjoined, fields_stemParts]
  obtain ⟨hgroups, hnumbers⟩ := List.append_inj' hparts rfl
  have hlibid : a.libid = b.libid := Guid.upperGroups_injective hgroups
  simp only [stemNumbers, List.cons.injEq, and_true] at hnumbers
  obtain ⟨hlcid, hmajor, hminor⟩ := hnumbers
  have hmajor : a.major = b.major := UInt16.toNat_inj.mp (Text.toDigits_ten_injective hmajor)
  have hminor : a.minor = b.minor := UInt16.toNat_inj.mp (Text.toDigits_ten_injective hminor)
  have hlcid : a.lcid = b.lcid := UInt32.toNat_inj.mp (Text.toDigits_ten_injective hlcid)
  cases a
  cases b
  simp_all

theorem wrapperName_injective {a b : Identity} (h : a.wrapperName = b.wrapperName) : a = b :=
  wrapperStem_injective (ModuleName.mk.inj h)

/-! ## The shape of a wrapper stem -/

/-- A wrapper stem has the shape that friendly stems are tested for. -/
theorem isWrapperStem_wrapperStem (i : Identity) : isWrapperStem i.wrapperStem := by
  have hgroups : i.libid.upperGroups.length = 5 := by
    simpa [Guid.groupLengths] using congrArg List.length i.libid.lengths_upperGroups
  have htake : i.stemParts.take 5 = i.libid.upperGroups := by
    rw [stemParts, ← hgroups, List.take_left]
  have hdrop : i.stemParts.drop 5 = i.stemNumbers := by
    rw [stemParts, ← hgroups, List.drop_left]
  have hhex : i.libid.upperGroups.all (·.all isUpperHex) := by
    refine List.all_eq_true.mpr fun group hgroup => List.all_eq_true.mpr fun c hc => ?_
    exact mem_stemParts (List.mem_append_left _ hgroup) hc
  have hdecimal : i.stemNumbers.all fun part => part ≠ [] && part.all Char.isDigit := by
    refine List.all_eq_true.mpr fun number hnumber => ?_
    obtain ⟨hne, hdigits⟩ := mem_stemNumbers hnumber
    simpa [hne] using hdigits
  rw [isWrapperStem, wrapperStem_toList]
  simp only [fields_stemParts, areWrapperParts, htake, hdrop, Guid.lengths_upperGroups, hhex]
  simpa [stemNumbers] using hdecimal

theorem isIdentifierChar_of_isUpperHex {c : Char} (h : isUpperHex c) : isIdentifierChar c := by
  simp only [isUpperHex, Bool.or_eq_true, Bool.and_eq_true, decide_eq_true_eq] at h
  rcases h with h | ⟨hlow, hhigh⟩
  · simp [isIdentifierChar, isLetterOrDigit, Char.isAlphanum, h]
  · have hupper : c.isUpper := by
      simp only [Char.isUpper, decide_eq_true_eq]
      exact ⟨hlow, Nat.le_trans hhigh (by decide)⟩
    simp [isIdentifierChar, isLetterOrDigit, Char.isAlphanum, Char.isAlpha, hupper]

/-- There are only underscores and digits of hexadecimal numbers in a wrapper stem. -/
theorem mem_wrapperStem {i : Identity} {c : Char} (hc : c ∈ i.wrapperStem.toList) :
    c = '_' ∨ isUpperHex c := by
  rw [wrapperStem_toList] at hc
  rcases List.mem_cons.mp hc with rfl | hc
  · exact .inl rfl
  · rcases Text.mem_intercalate hc with rfl | ⟨part, hpart, hc⟩
    · exact .inl rfl
    · exact .inr (mem_stemParts hpart hc)

theorem wrapperName_isIdentifier (i : Identity) : IsIdentifier i.wrapperName.member := by
  refine ⟨fun c hc => ?_, ?_, fun hkeyword => ?_⟩
  · rcases mem_wrapperStem hc with rfl | hc
    · decide
    · exact isIdentifierChar_of_isUpperHex hc
  · exact ⟨'_', _, i.wrapperStem_toList, by decide⟩
  · -- no keyword starts with an underscore
    have hstart : ∀ keyword ∈ keywords, keyword.toList.head? ≠ some '_' := by decide
    refine hstart _ hkeyword ?_
    rw [show i.wrapperName.member = i.wrapperStem from rfl, wrapperStem_toList]
    rfl

end Identity

/-! ## Friendly stems -/

theorem friendlyName_cases {declared : Option String} {name : ModuleName}
    (h : friendlyName declared = .ok (some name)) :
    ∃ text, declared = some text ∧ name = ⟨identifier text⟩ ∧
      isWrapperStem name.member = false := by
  cases declared with
  | none => simp [friendlyName] at h
  | some text =>
    simp only [friendlyName, friendlyStem] at h
    by_cases husable : text.toList.any isLetterOrDigit
    · by_cases hshape : isWrapperStem (identifier text)
      · simp [husable, hshape, Except.map] at h
      · simp only [husable, hshape, Except.map, if_true, Bool.false_eq_true, if_false,
          Option.map_some, Except.ok.injEq, Option.some.injEq] at h
        exact ⟨text, rfl, h.symm, by simpa [← h] using hshape⟩
    · simp [husable, Except.map] at h

/-- A friendly module never has the name of a wrapper. -/
theorem friendlyName_ne_wrapperName {declared : Option String} {name : ModuleName}
    (h : friendlyName declared = .ok (some name)) (i : Identity) : name ≠ i.wrapperName := by
  rintro rfl
  obtain ⟨-, -, -, hshape⟩ := friendlyName_cases h
  rw [show i.wrapperName.member = i.wrapperStem from rfl, i.isWrapperStem_wrapperStem] at hshape
  exact absurd hshape (by decide)

theorem friendlyName_isIdentifier {declared : Option String} {name : ModuleName}
    (h : friendlyName declared = .ok (some name)) : IsIdentifier name.member := by
  obtain ⟨text, -, rfl, -⟩ := friendlyName_cases h
  exact identifier_isIdentifier text

end Typelib
