import Typelib.Proofs.Guid
import Typelib.Proofs.Text.Padding

/-!
# Spellings of identifiers

An identifier is spelled by its five groups of digits with hyphens between them, in either case of
the letters and with braces around them or without (`Guid.IsSpelling`).  Exactly the spellings are
read, with blanks around them or without (`Guid.parse?_eq_some_iff`).  Other common forms, which
are as long as no spelling, are not (`Guid.OtherForm`, `Guid.spellings_read`).
-/

namespace Typelib.Guid

open Text

/-- The spellings of an identifier: its text with hyphens, in either case of the letters, with
braces around it or without. -/
inductive IsSpelling (g : Guid) : List Char → Prop
  | bare {cs : List Char} (h : cs.map Char.toUpper = g.hyphenated.toList) : IsSpelling g cs
  | braced {cs : List Char} (h : cs.map Char.toUpper = g.hyphenated.toList) :
      IsSpelling g ('\x7b' :: (cs ++ ['\x7d']))

/-- A spelling with any blanks around it. -/
def IsSpelledBy (g : Guid) (cs : List Char) : Prop :=
  ∃ inner, g.IsSpelling inner ∧ IsPadded inner cs

/-- Forms of an identifier that are no spellings of it: the digits alone, the text with hyphens in
a resource name, and with one brace only. -/
inductive OtherForm (g : Guid) : List Char → Prop
  | simple {cs : List Char} (h : cs.map Char.toUpper = g.digits.map Char.toUpper) : OtherForm g cs
  | urn {cs : List Char} (h : cs.map Char.toUpper = g.hyphenated.toList) :
      OtherForm g ("urn:uuid:".toList ++ cs)
  | opened {cs : List Char} (h : cs.map Char.toUpper = g.hyphenated.toList) :
      OtherForm g ('\x7b' :: cs)
  | closed {cs : List Char} (h : cs.map Char.toUpper = g.hyphenated.toList) :
      OtherForm g (cs ++ ['\x7d'])

/-! ## Groups of digits -/

theorem groups_flatten (parts : List (List Char)) :
    groups (parts.map List.length) parts.flatten = parts := by
  induction parts with
  | nil => rfl
  | cons part rest ih => simp [groups, ih]

theorem map_groups (f : Char → Char) (lengths : List Nat) (cs : List Char) :
    (groups lengths cs).map (·.map f) = groups lengths (cs.map f) := by
  induction lengths generalizing cs with
  | nil => rfl
  | cons n rest ih => simp [groups, ih]

theorem toUpper_eq_iff {c x : Char} (h : x.isAlpha = false) : c.toUpper = x ↔ c = x := by
  have hkeeps (hc : c.isAlpha = false) : c.toUpper = c :=
    Char.toUpper_eq_of_not_isLower fun hlower => by simp [Char.isAlpha, hlower] at hc
  constructor
  · intro heq
    have hc : c.isAlpha = false := by rw [← Char.isAlpha_toUpper_eq_isAlpha, heq, h]
    rw [← hkeeps hc, heq]
  · rintro rfl
    exact hkeeps h

/-- The case of the letters makes no difference. -/
theorem ofGroups?_toUpper (cs : List Char) : ofGroups? (cs.map Char.toUpper) = ofGroups? cs := by
  have hfields : fields '-' (cs.map Char.toUpper) = (fields '-' cs).map (·.map Char.toUpper) :=
    fields_map (fun c => toUpper_eq_iff (by decide)) cs
  have hnumber (digits : List Char) :
      natural? 16 (digits.map Char.toUpper) = natural? 16 digits := by
    rcases digits with _ | ⟨c, rest⟩
    · rfl
    · exact digitsValue?_toUpper (c :: rest)
  have hlengths : List.length ∘ List.map Char.toUpper = List.length := funext fun _ => by simp
  simp only [ofGroups?, hfields, List.map_map, hlengths, ← List.map_flatten, hnumber]

theorem hyphenated_of_ofGroups? {cs : List Char} {g : Guid} (h : ofGroups? cs = some g) :
    cs.map Char.toUpper = g.hyphenated.toList := by
  simp only [ofGroups?, Option.ite_none_right_eq_some, Option.map_eq_some_iff] at h
  obtain ⟨hlengths, n, hread, rfl⟩ := h
  have hwidth : (fields '-' cs).flatten.length = 32 := by
    rw [List.length_flatten, hlengths]
    rfl
  have hne : (fields '-' cs).flatten ≠ [] := List.ne_nil_of_length_pos (by omega)
  obtain ⟨hdigits, hbound⟩ := fixedHex_of_digitsValue? (natural?_of_ne_nil hne ▸ hread)
  rw [hwidth] at hdigits hbound
  -- the number has no more bits than an identifier, so its digits are those that were read
  have hvalue : (Guid.mk (BitVec.ofNat 128 n)).digits =
      (fields '-' cs).flatten.map Char.toLower := by
    rw [digits, BitVec.toNat_ofNat, Nat.mod_eq_of_lt (by omega), hdigits]
  have hgroups : (fields '-' cs).map (·.map Char.toUpper) =
      (Guid.mk (BitVec.ofNat 128 n)).upperGroups := by
    have hupper : Char.toUpper ∘ Char.toLower = Char.toUpper :=
      funext Char.toUpper_toLower_eq_toUpper
    rw [upperGroups, hvalue, map_groups, List.map_map, hupper, ← hlengths, ← map_groups,
      groups_flatten]
  calc cs.map Char.toUpper
      = (['-'].intercalate (fields '-' cs)).map Char.toUpper := by rw [intercalate_fields]
    _ = ['-'].intercalate ((fields '-' cs).map (·.map Char.toUpper)) :=
        map_intercalate Char.toUpper (by decide) _
    _ = _ := by rw [hgroups, toList_hyphenated]

theorem ofGroups?_eq_some_iff {cs : List Char} {g : Guid} :
    ofGroups? cs = some g ↔ cs.map Char.toUpper = g.hyphenated.toList := by
  constructor
  · exact hyphenated_of_ofGroups?
  · intro h
    rw [← ofGroups?_toUpper, h, ofGroups?_hyphenated]

/-! ## Braces and blanks -/

/-- One pair of braces is removed, and nothing else. -/
theorem withoutBraces_cases (cs : List Char) :
    cs = '\x7b' :: (withoutBraces cs ++ ['\x7d']) ∨ withoutBraces cs = cs := by
  unfold withoutBraces
  split
  · rename_i rest
    split
    · rename_i hlast
      refine .inl (congrArg ('\x7b' :: ·) ?_)
      have hne : rest ≠ [] := by
        rintro rfl
        cases hlast
      rw [List.getLast?_eq_some_getLast hne, Option.some.injEq] at hlast
      rw [← hlast, List.dropLast_append_getLast]
    · exact .inr rfl
  · exact .inr rfl

theorem withoutBraces_of_not_mem {cs : List Char} (h : '\x7b' ∉ cs) : withoutBraces cs = cs := by
  rcases withoutBraces_cases cs with heq | heq
  · rw [heq] at h
    exact absurd List.mem_cons_self h
  · exact heq

/-- A spelling has no other characters than digits and hyphens. -/
theorem not_mem_of_hyphenated {c : Char} {cs : List Char} {g : Guid}
    (h : cs.map Char.toUpper = g.hyphenated.toList) (hhyphen : c.toUpper ≠ '-')
    (hdigit : ∀ d < 16, c.toUpper ≠ (Nat.digitChar d).toUpper) : c ∉ cs := by
  intro hmem
  have hupper : c.toUpper ∈ g.hyphenated.toList := h ▸ List.mem_map_of_mem hmem
  rcases mem_hyphenated hupper with heq | ⟨d, hd, heq⟩
  · exact hhyphen heq
  · exact hdigit d hd heq

/-- Exactly the spellings are left over when the braces are removed. -/
theorem isSpelling_iff {cs : List Char} {g : Guid} :
    g.IsSpelling cs ↔ ofGroups? (withoutBraces cs) = some g := by
  constructor
  · rintro (h | h)
    · have hbrace : '\x7b' ∉ cs := not_mem_of_hyphenated h (by decide) (by decide)
      rw [withoutBraces_of_not_mem hbrace, ofGroups?_eq_some_iff]
      exact h
    · rename_i inner
      have hinner : withoutBraces ('\x7b' :: (inner ++ ['\x7d'])) = inner := by
        simp [withoutBraces]
      rw [hinner, ofGroups?_eq_some_iff]
      exact h
  · intro h
    have hinner := ofGroups?_eq_some_iff.mp h
    rcases withoutBraces_cases cs with heq | heq
    · rw [heq]
      exact .braced hinner
    · exact .bare (heq ▸ hinner)

theorem isBlank_of_isAlpha {c : Char} (h : c.isAlpha) : isBlank c = false := by
  simp only [Char.isAlpha, Char.isUpper, Char.isLower, Bool.or_eq_true, decide_eq_true_eq,
    ge_iff_le, UInt32.le_iff_toNat_le] at h
  have hc : c.val.toNat = c.toNat := rfl
  simp [isBlank, blankRanges] at h ⊢
  omega

/-- A text has no blanks if its capitals are none. -/
theorem not_blank_of_map_toUpper {cs upper : List Char} (h : cs.map Char.toUpper = upper)
    (hupper : ∀ c ∈ upper, isBlank c = false) : ∀ c ∈ cs, isBlank c = false := by
  intro c hc
  cases halpha : c.isAlpha with
  | true => exact isBlank_of_isAlpha halpha
  | false =>
    have hmem : c.toUpper ∈ upper := h ▸ List.mem_map_of_mem hc
    rw [(toUpper_eq_iff halpha).mpr rfl] at hmem
    exact hupper c hmem

theorem not_blank_of_hyphenated {cs : List Char} {g : Guid}
    (h : cs.map Char.toUpper = g.hyphenated.toList) : ∀ c ∈ cs, isBlank c = false :=
  not_blank_of_map_toUpper h fun _ => isBlank_of_mem_hyphenated

theorem IsSpelling.not_blank {cs : List Char} {g : Guid} (h : g.IsSpelling cs) :
    ∀ c ∈ cs, isBlank c = false := by
  cases h with
  | bare h => exact not_blank_of_hyphenated h
  | braced h =>
    rw [List.forall_mem_cons, List.forall_mem_append, List.forall_mem_singleton]
    exact ⟨by decide, not_blank_of_hyphenated h, by decide⟩

/-- What spells an identifier is a spelling once the blanks are removed. -/
theorem isSpelledBy_iff {cs : List Char} {g : Guid} :
    g.IsSpelledBy cs ↔ g.IsSpelling (trim cs) := by
  constructor
  · rintro ⟨inner, hspelling, hpadded⟩
    rwa [(isPadded_iff_trim_eq hspelling.not_blank).mp hpadded]
  · intro h
    exact ⟨trim cs, h, isPadded_trim cs⟩

/-- What spells an identifier can be put between commas and after a colon. -/
theorem IsSpelledBy.not_mem {c : Char} {cs : List Char} {g : Guid} (h : g.IsSpelledBy cs)
    (hc : c = ',' ∨ c = ':') : c ∉ cs := by
  obtain ⟨inner, hspelling, hpadded⟩ := h
  have hforeign : isBlank c = false ∧ c ≠ '\x7b' ∧ c ≠ '\x7d' ∧ c.toUpper ≠ '-' ∧
      ∀ d < 16, c.toUpper ≠ (Nat.digitChar d).toUpper := by
    rcases hc with rfl | rfl <;> decide
  obtain ⟨hkept, hopen, hclose, hhyphen, hdigit⟩ := hforeign
  have hbare {cs : List Char} (h : cs.map Char.toUpper = g.hyphenated.toList) : c ∉ cs :=
    not_mem_of_hyphenated h hhyphen hdigit
  intro hmem
  have hinner : c ∈ inner := hpadded.mem hmem hkept
  cases hspelling with
  | bare h => exact hbare h hinner
  | braced h => simp [hopen, hclose, hbare h] at hinner

/-- A text is read as an identifier exactly if it spells it. -/
theorem parse?_eq_some_iff {s : String} {g : Guid} :
    parse? s = some g ↔ g.IsSpelledBy s.toList := by
  rw [isSpelledBy_iff, isSpelling_iff, parse?]

/-- An identifier is read the same with the blanks around it or without. -/
theorem parse?_ofList_congr {cs ds : List Char} (h : trim cs = trim ds) :
    parse? (String.ofList cs) = parse? (String.ofList ds) := by
  rw [parse?, parse?, String.toList_ofList, String.toList_ofList, h]

theorem parse?_ofList_eq_some_iff {cs : List Char} {g : Guid} :
    parse? (String.ofList cs) = some g ↔ g.IsSpelledBy cs := by
  rw [parse?_eq_some_iff, String.toList_ofList]

/-! ## Other forms -/

theorem length_hyphenated (g : Guid) : g.hyphenated.toList.length = 36 := by
  rw [toList_hyphenated]
  simp [upperGroups, groups, groupLengths, length_digits]

theorem length_of_map_toUpper {cs : List Char} {g : Guid}
    (h : cs.map Char.toUpper = g.hyphenated.toList) : cs.length = 36 := by
  rw [← List.length_map Char.toUpper, h, length_hyphenated]

theorem IsSpelling.length {cs : List Char} {g : Guid} (h : g.IsSpelling cs) :
    cs.length = 36 ∨ cs.length = 38 := by
  cases h with
  | bare h => exact .inl (length_of_map_toUpper h)
  | braced h => exact .inr (by simp [length_of_map_toUpper h])

theorem OtherForm.length {cs : List Char} {g : Guid} (h : g.OtherForm cs) :
    cs.length = 32 ∨ cs.length = 45 ∨ cs.length = 37 := by
  cases h with
  | simple h =>
    have hlength := congrArg List.length h
    rw [List.length_map, List.length_map, length_digits] at hlength
    exact .inl hlength
  | urn h => exact .inr (.inl (by simp [length_of_map_toUpper h]))
  | opened h => exact .inr (.inr (by simp [length_of_map_toUpper h]))
  | closed h => exact .inr (.inr (by simp [length_of_map_toUpper h]))

theorem OtherForm.not_blank {cs : List Char} {g : Guid} (h : g.OtherForm cs) :
    ∀ c ∈ cs, isBlank c = false := by
  cases h with
  | simple h =>
    refine not_blank_of_map_toUpper h fun c hc => ?_
    obtain ⟨lower, hlower, rfl⟩ := List.mem_map.mp hc
    obtain ⟨d, hd, rfl⟩ := mem_fixedHex hlower
    exact (by decide : ∀ d < 16, isBlank (Nat.digitChar d).toUpper = false) d hd
  | urn h =>
    have hname : ∀ c ∈ "urn:uuid:".toList, isBlank c = false := by
      simp [isBlank, blankRanges]
    rw [List.forall_mem_append]
    exact ⟨hname, not_blank_of_hyphenated h⟩
  | opened h =>
    rw [List.forall_mem_cons]
    exact ⟨by decide, not_blank_of_hyphenated h⟩
  | closed h =>
    rw [List.forall_mem_append, List.forall_mem_singleton]
    exact ⟨not_blank_of_hyphenated h, by decide⟩

/-- Another form of an identifier is read as no identifier at all. -/
theorem OtherForm.parse?_eq_none {inner : List Char} {g : Guid} {s : String}
    (h : g.OtherForm inner) (hpadded : IsPadded inner s.toList) : parse? s = none := by
  refine Option.eq_none_iff_forall_not_mem.mpr fun other hread => ?_
  have hspelling := isSpelledBy_iff.mp (parse?_eq_some_iff.mp hread)
  rw [(isPadded_iff_trim_eq h.not_blank).mp hpadded] at hspelling
  have hlength := h.length
  have hother := hspelling.length
  omega

/-- A text is read as an identifier exactly if it is a spelling of it with any blanks around it.
So the texts that an identifier is written as are read as that identifier, and its other forms are
read as none. -/
theorem spellings_read (g : Guid) :
    (∀ s, parse? s = some g ↔
      ∃ inner, g.IsSpelling inner ∧ ∃ before after,
        s.toList = before ++ inner ++ after ∧ ∀ c ∈ before ++ after, isBlank c) ∧
    parse? g.braced = some g ∧ parse? g.hyphenated = some g ∧
    ∀ s inner, g.OtherForm inner → IsPadded inner s.toList → parse? s = none := by
  refine ⟨fun s => parse?_eq_some_iff, parse?_braced g, ?_, fun s inner h => h.parse?_eq_none⟩
  have hspelling : g.IsSpelling g.hyphenated.toList := by
    have hupper : Char.toUpper ∘ Char.toUpper = Char.toUpper :=
      funext Char.toUpper_toUpper_eq_toUpper
    refine .bare ?_
    rw [hyphenated, String.toList_ofList, List.map_map, hupper]
  exact parse?_eq_some_iff.mpr ⟨_, hspelling, [], [], by simp, by simp⟩

/-- Case and blanks make no difference; the digits alone are read as no identifier. -/
theorem spellings_read_mixed :
    parse? " \x7b944de083-8FB8-45cf-bcb7-c477ACB2F897\x7d\t" =
      some ⟨0x944DE0838FB845CFBCB7C477ACB2F897⟩ ∧
    parse? "944DE0838FB845CFBCB7C477ACB2F897" = none := by
  have hread := spellings_read ⟨0x944DE0838FB845CFBCB7C477ACB2F897⟩
  have hmixed : "944de083-8FB8-45cf-bcb7-c477ACB2F897".toList.map Char.toUpper =
      (hyphenated ⟨0x944DE0838FB845CFBCB7C477ACB2F897⟩).toList := by decide
  have hsimple : "944DE0838FB845CFBCB7C477ACB2F897".toList.map Char.toUpper =
      (digits ⟨0x944DE0838FB845CFBCB7C477ACB2F897⟩).map Char.toUpper := by decide
  constructor
  · exact (hread.1 _).mpr ⟨_, .braced hmixed, [' '], ['\t'], by simp,
      by simp [isBlank, blankRanges]⟩
  · exact hread.2.2.2 _ _ (.simple hsimple) ⟨[], [], by simp, by simp⟩

end Typelib.Guid
