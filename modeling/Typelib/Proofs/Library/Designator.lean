import Typelib.Library.Designator
import Typelib.Proofs.Guid.Spelling

/-!
# Texts of designators

`Designator.Spells` says which texts designate a class or a library: `clsid:` and an identifier, an
identifier alone, and an identifier with a version or with a version and a locale after commas, each
part with any blanks around it.  Exactly these texts are read as such designators
(`Designator.ofText_eq_some_iff`).  An identifier with other fields after it
(`Designator.IsMalformed`) is read as nothing, not even as a path (`spelled_designators_read`).
-/

namespace Typelib.Designator

open Text

/-- A text that says it names a class, after any blanks, and what follows. -/
def NamesClass (cs field : List Char) : Prop :=
  ∃ before, cs = before ++ "clsid:".toList ++ field ∧ ∀ c ∈ before, isBlank c

/-- What the fields after the identifier of a library spell together with it. -/
inductive FieldsSpell (libid : Guid) : List (List Char) → Designator → Prop
  | highest : FieldsSpell libid [] (.library libid none none none)
  | version {first second : List Char} {major minor : UInt16}
      (hmajor : HoldsDecimal first major.toNat) (hminor : HoldsDecimal second minor.toNat) :
      FieldsSpell libid [first, second] (.library libid (some major) (some minor) none)
  | exact {first second third : List Char} {major minor : UInt16} {lcid : UInt32}
      (hmajor : HoldsDecimal first major.toNat) (hminor : HoldsDecimal second minor.toNat)
      (hlcid : HoldsDecimal third lcid.toNat) :
      FieldsSpell libid [first, second, third] (.exact ⟨libid, major, minor, lcid⟩)

/-- The texts that designate a class or a library. -/
inductive Spells : List Char → Designator → Prop
  | coClass {cs field : List Char} {clsid : Guid} (hclass : NamesClass cs field)
      (hclsid : clsid.IsSpelledBy field) : Spells cs (.coClass clsid)
  | library {field : List Char} {rest : List (List Char)} {libid : Guid} {d : Designator}
      (hlibid : libid.IsSpelledBy field) (hrest : FieldsSpell libid rest d) :
      Spells ([','].intercalate (field :: rest)) d

/-- Fields that spell nothing after the identifier of a library: there are neither none nor two nor
three of them, or one of them holds no number in its range. -/
inductive IsMalformed : List (List Char) → Prop
  | count {rest : List (List Char)} (h : rest.length ≠ 0 ∧ rest.length ≠ 2 ∧ rest.length ≠ 3) :
      IsMalformed rest
  | version {rest : List (List Char)} {field : List Char} (hfield : field ∈ rest.take 2)
      (h : ∀ n < UInt16.size, ¬ HoldsDecimal field n) : IsMalformed rest
  | locale {rest : List (List Char)} {field : List Char} (hfield : rest[2]? = some field)
      (h : ∀ n < UInt32.size, ¬ HoldsDecimal field n) : IsMalformed rest

/-! ## The fields after an identifier -/

section Fields

variable {libid : Guid} {rest : List (List Char)} {d : Designator}

theorem ofFields?_of_fieldsSpell (h : FieldsSpell libid rest d) :
    ofFields? libid (rest.map trim) = some d := by
  cases h with
  | highest => rfl
  | version hmajor hminor =>
    rw [← word16?_trim_eq_some_iff] at hmajor hminor
    simp [ofFields?, hmajor, hminor]
  | exact hmajor hminor hlcid =>
    rw [← word16?_trim_eq_some_iff] at hmajor hminor
    rw [← word32?_trim_eq_some_iff] at hlcid
    simp [ofFields?, hmajor, hminor, hlcid, Designator.exact]

/-- Fields spell something or are malformed. -/
theorem fieldsSpell_or_isMalformed (libid : Guid) (rest : List (List Char)) :
    (∃ d, FieldsSpell libid rest d) ∨ IsMalformed rest := by
  match rest with
  | [] => exact .inl ⟨_, .highest⟩
  | [_] => exact .inr (.count (by simp))
  | [first, second] =>
    rcases hmajor : word16? 10 (trim first) with _ | major
    · exact .inr (.version (by simp) (word16?_trim_eq_none_iff.mp hmajor))
    rcases hminor : word16? 10 (trim second) with _ | minor
    · exact .inr (.version (by simp) (word16?_trim_eq_none_iff.mp hminor))
    rw [word16?_trim_eq_some_iff] at hmajor hminor
    exact .inl ⟨_, .version hmajor hminor⟩
  | [first, second, third] =>
    rcases hmajor : word16? 10 (trim first) with _ | major
    · exact .inr (.version List.mem_cons_self (word16?_trim_eq_none_iff.mp hmajor))
    rcases hminor : word16? 10 (trim second) with _ | minor
    · exact .inr (.version (List.mem_cons_of_mem _ List.mem_cons_self)
        (word16?_trim_eq_none_iff.mp hminor))
    rcases hlcid : word32? 10 (trim third) with _ | lcid
    · exact .inr (.locale rfl (word32?_trim_eq_none_iff.mp hlcid))
    rw [word16?_trim_eq_some_iff] at hmajor hminor
    rw [word32?_trim_eq_some_iff] at hlcid
    exact .inl ⟨_, .exact hmajor hminor hlcid⟩
  | _ :: _ :: _ :: _ :: _ => exact .inr (.count (by simp))

theorem ofFields?_of_isMalformed (h : IsMalformed rest) :
    ofFields? libid (rest.map trim) = none := by
  cases h with
  | count h =>
    match rest with
    | [] | [_, _] | [_, _, _] => simp at h
    | [_] | _ :: _ :: _ :: _ :: _ => rfl
  | version hfield h =>
    rw [← word16?_trim_eq_none_iff] at h
    -- one field alone or more than three are refused before any number is read
    match rest with
    | [] => simp at hfield
    | [_] | _ :: _ :: _ :: _ :: _ => rfl
    | [first, second] | [first, second, third] =>
      rw [List.take_succ_cons, List.take_succ_cons, List.take_zero, List.mem_pair] at hfield
      rcases hfield with rfl | rfl <;> simp [ofFields?, h]
  | locale hfield h =>
    rw [← word32?_trim_eq_none_iff] at h
    match rest with
    | [] | [_] | [_, _] => simp at hfield
    | [first, second, third] =>
      obtain rfl := Option.some.inj hfield
      simp [ofFields?, h]
    | _ :: _ :: _ :: _ :: _ => rfl

theorem ofFields?_eq_some_iff :
    ofFields? libid (rest.map trim) = some d ↔ FieldsSpell libid rest d := by
  refine ⟨fun hread => ?_, ofFields?_of_fieldsSpell⟩
  rcases fieldsSpell_or_isMalformed libid rest with ⟨other, hspell⟩ | hmalformed
  · rw [ofFields?_of_fieldsSpell hspell, Option.some.injEq] at hread
    exact hread ▸ hspell
  · rw [ofFields?_of_isMalformed hmalformed] at hread
    cases hread

theorem ofFields?_eq_none_iff : ofFields? libid (rest.map trim) = none ↔ IsMalformed rest := by
  refine ⟨fun hread => ?_, ofFields?_of_isMalformed⟩
  rcases fieldsSpell_or_isMalformed libid rest with ⟨other, hspell⟩ | hmalformed
  · rw [ofFields?_of_fieldsSpell hspell] at hread
    cases hread
  · exact hmalformed

/-- A comma stands between the fields only. -/
theorem FieldsSpell.comma_not_mem (h : FieldsSpell libid rest d) : ∀ field ∈ rest, ',' ∉ field := by
  intro field hfield
  cases h with
  | highest => cases hfield
  | version hmajor hminor =>
    rw [List.mem_pair] at hfield
    rcases hfield with rfl | rfl
    · exact hmajor.comma_not_mem
    · exact hminor.comma_not_mem
  | exact hmajor hminor hlcid =>
    rw [List.mem_cons, List.mem_pair] at hfield
    rcases hfield with rfl | rfl | rfl
    · exact hmajor.comma_not_mem
    · exact hminor.comma_not_mem
    · exact hlcid.comma_not_mem

end Fields

/-! ## The whole text -/

theorem NamesClass.trim_eq {cs field : List Char} (h : NamesClass cs field) :
    trim cs = "clsid:".toList ++ trimEnd field := by
  obtain ⟨before, rfl, hblank⟩ := h
  have hpadded : IsPadded ("clsid:".toList ++ field) (before ++ "clsid:".toList ++ field) :=
    ⟨before, [], by simp, by simpa using hblank⟩
  rw [hpadded.trim_eq]
  have hname : ∀ c ∈ "clsid:".toList, isBlank c = false := by simp [isBlank, blankRanges]
  exact trim_append_of_not_blank (by decide) hname

theorem ofText_of_namesClass {text : String} {field : List Char}
    (h : NamesClass text.toList field) :
    ofText text = match Guid.parse? (String.ofList field) with
      | some clsid => .ok (some (coClass clsid))
      | none => .error (.ambiguous text .invalidClass) := by
  have hfield : trim (trimEnd field) = trim field := (isPadded_trimEnd field).trim_eq.symm
  rcases hread : Guid.parse? (String.ofList field) with _ | clsid
  all_goals
    simp only [ofText, h.trim_eq, afterStart_append, Guid.parse?_ofList_congr hfield, hread]

theorem exists_namesClass {cs rest : List Char}
    (h : afterStart "clsid:".toList (trim cs) = some rest) : ∃ field, NamesClass cs field := by
  obtain ⟨before, after, heq, hblank⟩ := exists_trim cs
  rw [afterStart_eq_some_iff.mp h] at heq
  exact ⟨rest ++ after, before, by simpa using heq, (List.forall_mem_append.mp hblank).1⟩

theorem ofText_of_fields {text : String} {first : List Char} {rest : List (List Char)}
    (hclass : ∀ field, ¬ NamesClass text.toList field)
    (hfields : fields ',' text.toList = first :: rest) :
    ofText text = match Guid.parse? (String.ofList first) with
      | none => .ok none
      | some libid =>
        match ofFields? libid (rest.map trim) with
        | some designator => .ok (some designator)
        | none => .error (.ambiguous text .invalidFields) := by
  -- the blanks are removed from the whole text first, and from each field afterwards
  have hstart : afterStart "clsid:".toList (trim text.toList) = none := by
    refine Option.eq_none_iff_forall_ne_some.mpr fun rest hrest => ?_
    obtain ⟨field, hfield⟩ := exists_namesClass hrest
    exact hclass field hfield
  have htrimmed : (fields ',' (trim text.toList)).map trim = trim first :: rest.map trim := by
    rw [map_trim_fields (by decide), hfields, List.map_cons]
  have hfirst := Guid.parse?_ofList_congr (trim_trim first)
  rcases hread : Guid.parse? (String.ofList first) with _ | libid
  · simp only [ofText, hstart, htrimmed, hfirst, hread]
  · rcases hrest : ofFields? libid (rest.map trim) with _ | designator
    all_goals simp only [ofText, hstart, htrimmed, hfirst, hread, hrest]

/-- The name of a class is no part of an identifier. -/
theorem not_namesClass {cs first : List Char} {rest : List (List Char)} {g : Guid}
    (hfields : fields ',' cs = first :: rest) (hfirst : g.IsSpelledBy first) (field : List Char) :
    ¬ NamesClass cs field := by
  rintro ⟨before, rfl, hblank⟩
  have hcomma : ',' ∉ before ++ "clsid:".toList := by
    rw [List.mem_append]
    rintro (hmem | hmem)
    · exact absurd (hblank _ hmem) (by decide)
    · exact absurd hmem (by decide)
  rw [fields_append_of_not_mem hcomma] at hfields
  rcases hmore : fields ',' field with _ | ⟨next, more⟩
  · exact absurd hmore fields_ne_nil
  · rw [hmore, List.modifyHead_cons, List.cons.injEq] at hfields
    refine hfirst.not_mem (.inr rfl) ?_
    rw [← hfields.1]
    simp

theorem ofText_of_spells {text : String} {d : Designator} (h : Spells text.toList d) :
    ofText text = .ok (some d) := by
  -- the text is an index of the relation, so the cases need a variable in its place
  generalize hcs : text.toList = cs at h
  cases h with
  | coClass hclass hclsid =>
    rw [ofText_of_namesClass (hcs ▸ hclass), Guid.parse?_ofList_eq_some_iff.mpr hclsid]
  | @library field rest libid _ hlibid hrest =>
    have hcommas : ∀ part ∈ field :: rest, ',' ∉ part :=
      List.forall_mem_cons.mpr ⟨hlibid.not_mem (.inl rfl), hrest.comma_not_mem⟩
    have hfields : fields ',' text.toList = field :: rest := by
      rw [hcs]
      exact fields_intercalate (List.cons_ne_nil _ _) hcommas
    rw [ofText_of_fields (not_namesClass hfields hlibid) hfields,
      Guid.parse?_ofList_eq_some_iff.mpr hlibid]
    simp only [ofFields?_eq_some_iff.mpr hrest]

/-- Exactly the texts that spell a class or a library are read as it. -/
theorem ofText_eq_some_iff {text : String} {d : Designator} :
    ofText text = .ok (some d) ↔ Spells text.toList d := by
  refine ⟨fun h => ?_, ofText_of_spells⟩
  by_cases hclass : ∃ field, NamesClass text.toList field
  · obtain ⟨field, hclass⟩ := hclass
    rw [ofText_of_namesClass hclass] at h
    rcases hread : Guid.parse? (String.ofList field) with _ | clsid
    · rw [hread] at h
      cases h
    · rw [hread] at h
      cases h
      exact .coClass hclass (Guid.parse?_ofList_eq_some_iff.mp hread)
  · rcases hfields : fields ',' text.toList with _ | ⟨first, rest⟩
    · exact absurd hfields fields_ne_nil
    rw [ofText_of_fields (not_exists.mp hclass) hfields] at h
    rcases hread : Guid.parse? (String.ofList first) with _ | libid
    · rw [hread] at h
      cases h
    rcases hrest : ofFields? libid (rest.map trim) with _ | other
    · simp only [hread, hrest] at h
      cases h
    · simp only [hread, hrest] at h
      cases h
      have hjoined : [','].intercalate (fields ',' text.toList) = text.toList := intercalate_fields
      rw [← hjoined, hfields]
      exact .library (Guid.parse?_ofList_eq_some_iff.mp hread) (ofFields?_eq_some_iff.mp hrest)

theorem ofText_of_isMalformed {text : String} {first : List Char} {rest : List (List Char)}
    {libid : Guid} (hfields : fields ',' text.toList = first :: rest)
    (hfirst : libid.IsSpelledBy first) (hrest : IsMalformed rest) :
    ofText text = .error (.ambiguous text .invalidFields) := by
  rw [ofText_of_fields (not_namesClass hfields hfirst) hfields,
    Guid.parse?_ofList_eq_some_iff.mpr hfirst]
  simp only [ofFields?_eq_none_iff.mpr hrest]

/-- A text that spells a class or a library, and names no file, is read as it; one that starts with
an identifier and goes on otherwise is refused; and no other text is read as a class or a library,
but as a path or not at all. -/
theorem spelled_designators_read (files : Files) (base : Option Path) (text : String) :
    (∀ d, Spells text.toList d → files.pathExists ⟨text⟩ = false →
      (∀ directory ∈ base, files.pathExists (directory.join ⟨text⟩) = false) →
        parse files base text = .ok d) ∧
    (∀ (libid : Guid) (first : List Char) (rest : List (List Char)),
      text.toList.splitOn ',' = first :: rest → libid.IsSpelledBy first → IsMalformed rest →
        parse files base text = .error (.ambiguous text .invalidFields)) ∧
    ∀ d, parse files base text = .ok d →
      Spells text.toList d ∨ d = ofPath ⟨text⟩ ∧ ∀ other, ¬ Spells text.toList other := by
  refine ⟨fun d hspells hcurrent hbase => ?_, fun libid first rest hfields hfirst hrest => ?_,
    fun d hread => ?_⟩
  · have hfile : namesFile files base text = false := by
      rw [namesFile, hcurrent, Bool.false_or, Option.any_eq_false]
      intro directory hdirectory
      simpa using hbase directory hdirectory
    rw [parse, ofText_of_spells hspells]
    simp [hfile]
  · rw [← fields_eq_splitOn] at hfields
    rw [parse, ofText_of_isMalformed hfields hfirst hrest]
  · rw [parse] at hread
    split at hread
    · cases hread
    · rename_i hnothing
      cases hread
      refine .inr ⟨rfl, fun other hspells => ?_⟩
      rw [ofText_of_spells hspells] at hnothing
      cases hnothing
    · rename_i other hspelled
      split at hread
      · cases hread
      · cases hread
        exact .inl (ofText_eq_some_iff.mp hspelled)

/-- Blanks, a sign and leading zeros make no difference; a number above its range is not wrapped;
and a text with another start is a path. -/
theorem spelled_designators_read_sixteen :
    let files : Files := ⟨.ofList [], some []⟩
    let libid : Guid := ⟨0x0000000a000000000000000000000000#128⟩
    let text := "0000000A-0000-0000-0000-000000000000, +016 ,0,1033"
    let above := "0000000A-0000-0000-0000-000000000000,65536,0"
    parse files (some ⟨"/base"⟩) text = .ok (.exact ⟨libid, 16, 0, 1033⟩) ∧
      parse files (some ⟨"/base"⟩) above = .error (.ambiguous above .invalidFields) ∧
      ∀ other, ¬ Spells "sixteen.json".toList other := by
  intro files libid text above
  have hread := spelled_designators_read files (some ⟨"/base"⟩)
  have hcapitals : "0000000A-0000-0000-0000-000000000000".toList.map Char.toUpper =
      libid.hyphenated.toList := by decide
  have hlibid : libid.IsSpelledBy "0000000A-0000-0000-0000-000000000000".toList :=
    ⟨_, .bare hcapitals, [], [], by simp, by simp⟩
  refine ⟨?_, ?_, ?_⟩
  · have hmajor : HoldsDecimal " +016 ".toList (16 : UInt16).toNat :=
      ⟨['+', '0', '1', '6'], .inr ⟨_, rfl, by decide, by simp, by decide⟩, [' '], [' '],
        by decide, by simp [isBlank, blankRanges]⟩
    have hminor : HoldsDecimal "0".toList (0 : UInt16).toNat :=
      ⟨_, spellsDecimal_toDigits 0, [], [], by decide, by simp⟩
    have hlcid : HoldsDecimal "1033".toList (1033 : UInt32).toNat :=
      ⟨_, spellsDecimal_toDigits 1033, [], [], by decide, by simp⟩
    have htext : text.toList = [','].intercalate ["0000000A-0000-0000-0000-000000000000".toList,
        " +016 ".toList, "0".toList, "1033".toList] := by decide
    have hspells : Spells text.toList (.exact ⟨libid, 16, 0, 1033⟩) := by
      rw [htext]
      exact .library hlibid (.exact hmajor hminor hlcid)
    exact (hread text).1 _ hspells (by decide) (by decide)
  · have hmajor : ∀ n < UInt16.size, ¬ HoldsDecimal "65536".toList n :=
      unsigned?_trim_eq_none_iff.mp (by decide)
    exact (hread above).2.1 libid _ ["65536".toList, "0".toList] (by simp [above]; decide) hlibid
      (.version List.mem_cons_self hmajor)
  · have hpath : parse files (some ⟨"/base"⟩) "sixteen.json" =
        .ok (.relative ⟨"sixteen.json"⟩) := rfl
    rcases (hread "sixteen.json").2.2 _ hpath with hspells | ⟨-, hnothing⟩
    · generalize "sixteen.json".toList = cs at hspells
      cases hspells with
      | library _ hrest => cases hrest
    · exact hnothing

end Typelib.Designator
