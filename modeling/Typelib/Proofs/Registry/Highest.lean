import Typelib.Proofs.Files.Basic
import Typelib.Proofs.Registry.Versions
import Typelib.Proofs.Text.Spelling

/-!
# The highest version

A library that is asked for without a minor version is looked for among the version keys of the
registry.  Keys may be any texts; `Registry.IsVersionKey` says which of them are versions, and which
ones.  The version that is picked is the greatest of these, by the numbers and within the major
version that is asked for if there is one, and each of the three failures has its own cause
(`highest_resolved`).  The registry may say anything about a file, but what is loaded declares the
version that was picked (`Loader.declares_of_loadRegistered`).
-/

namespace Typelib

/-! ## Keys that are versions -/

namespace Registry

open Text

/-- Whether a key is a version: the two numbers in hexadecimal with a dot between them, and blanks
around them. -/
def IsVersionKey (key : String) (v : UInt16 × UInt16) : Prop :=
  ∃ major minor before after, key.toList = before ++ (major ++ '.' :: minor) ++ after ∧
    (∀ c ∈ before ++ after, isBlank c) ∧ SpellsHex major v.1.toNat ∧ SpellsHex minor v.2.toNat

/-- A key is read as a version exactly if it is that version. -/
theorem parseVersion?_eq_some_iff {key : String} {v : UInt16 × UInt16} :
    parseVersion? 16 key = some v ↔ IsVersionKey key v := by
  have hinner {major minor : List Char} (hmajor : SpellsHex major v.1.toNat)
      (hminor : SpellsHex minor v.2.toNat) : ∀ c ∈ major ++ '.' :: minor, isBlank c = false := by
    rw [List.forall_mem_append, List.forall_mem_cons]
    exact ⟨fun c hc => (hmajor.chars c hc).1, by decide, fun c hc => (hminor.chars c hc).1⟩
  constructor
  · intro h
    obtain ⟨⟨major, minor⟩, hcut, hread⟩ := Option.bind_eq_some_iff.mp h
    dsimp only at hread
    split at hread
    · rename_i M m hM hm
      obtain rfl := Option.some.inj hread
      have hmajor := word16?_eq_some_iff.mp hM
      have hminor := word16?_eq_some_iff.mp hm
      obtain ⟨before, after, hkey, hblank⟩ :=
        (trim_eq_iff (hinner hmajor hminor)).mp (cut_eq_some_iff.mp hcut).1
      exact ⟨major, minor, before, after, hkey, hblank, hmajor, hminor⟩
    · cases hread
  · rintro ⟨major, minor, before, after, hkey, hblank, hmajor, hminor⟩
    have htrim : trim key.toList = major ++ '.' :: minor :=
      (trim_eq_iff (hinner hmajor hminor)).mpr ⟨before, after, hkey, hblank⟩
    have hdot : '.' ∉ major := fun hmem => (hmajor.chars '.' hmem).2 rfl
    rw [parseVersion?, htrim, cut_append hdot]
    simp only [Option.bind_some, word16?_eq_some_iff.mpr hmajor, word16?_eq_some_iff.mpr hminor]

/-! ## The greatest version -/

theorem versionRank_le_iff {v w : UInt16 × UInt16} :
    versionRank v ≤ versionRank w ↔ toLex v ≤ toLex w := by
  have hv := v.2.toNat_lt
  have hw := w.2.toNat_lt
  simp only [Prod.Lex.toLex_le_toLex, versionRank, UInt16.size, UInt16.lt_iff_toNat_lt,
    UInt16.le_iff_toNat_le, ← UInt16.toNat_inj]
  omega

theorem versionRank_injective {v w : UInt16 × UInt16} (h : versionRank v = versionRank w) :
    v = w := by
  have hv := v.2.toNat_lt
  have hw := w.2.toNat_lt
  simp only [versionRank, UInt16.size] at h
  exact Prod.ext (UInt16.toNat_inj.mp (by omega)) (UInt16.toNat_inj.mp (by omega))

theorem versionRank_le_higher (v w : UInt16 × UInt16) :
    versionRank v ≤ versionRank (higher v w) ∧ versionRank w ≤ versionRank (higher v w) := by
  unfold higher
  split <;> omega

theorem versionRank_le_foldl (v : UInt16 × UInt16) (rest : List (UInt16 × UInt16)) :
    ∀ w ∈ v :: rest, versionRank w ≤ versionRank (rest.foldl higher v) := by
  induction rest generalizing v with
  | nil => simp
  | cons next rest ih =>
    intro w hw
    have hnext := versionRank_le_higher v next
    have hfirst := ih (higher v next) (higher v next) List.mem_cons_self
    rw [List.foldl_cons]
    rcases List.mem_cons.mp hw with rfl | hw
    · omega
    · rcases List.mem_cons.mp hw with rfl | hw
      · omega
      · exact ih (higher v next) w (List.mem_cons_of_mem _ hw)

/-- The highest version of a list is the greatest one, by major and then by minor version. -/
theorem maxVersion?_eq_some_iff {versions : List (UInt16 × UInt16)} {v : UInt16 × UInt16} :
    maxVersion? versions = some v ↔ IsGreatest {w | ofLex w ∈ versions} (toLex v) := by
  have hgreatest {found : UInt16 × UInt16} (h : maxVersion? versions = some found) :
      IsGreatest {w | ofLex w ∈ versions} (toLex found) := by
    refine ⟨maxVersion?_mem h, fun w hw => ?_⟩
    rcases versions with _ | ⟨first, rest⟩
    · cases h
    · obtain rfl := Option.some.inj h
      exact versionRank_le_iff.mp (versionRank_le_foldl first rest (ofLex w) hw)
  refine ⟨hgreatest, fun h => ?_⟩
  rcases hfound : maxVersion? versions with _ | found
  · rcases versions with _ | ⟨first, rest⟩
    · cases h.1
    · cases hfound
  · have hbelow := versionRank_le_iff.mpr (h.2 (hgreatest hfound).1)
    have habove := versionRank_le_iff.mpr ((hgreatest hfound).2 h.1)
    rw [versionRank_injective (Nat.le_antisymm hbelow habove)]

theorem maxVersion?_eq_none_iff {versions : List (UInt16 × UInt16)} :
    maxVersion? versions = none ↔ versions = [] := by
  cases versions <;> simp [maxVersion?]

/-! ## The version that is picked -/

/-- The versions that a library is registered for: those that one of its keys is. -/
def keyedVersions (r : Registry) (libid : Guid) : Set (UInt16 × UInt16) :=
  {v | ∃ key ∈ r.versions libid, IsVersionKey key v}

/-- Those within a major version, if there is one, in the order by major and then by minor
version. -/
def wantedVersions (r : Registry) (libid : Guid) (major : Option UInt16) :
    Set (UInt16 ×ₗ UInt16) :=
  {v | ofLex v ∈ r.keyedVersions libid ∧ ∀ M ∈ major, (ofLex v).1 = M}

section

variable {r : Registry} {libid : Guid} {major : Option UInt16} {v : UInt16 × UInt16}

theorem mem_parsed_iff :
    v ∈ (r.versions libid).filterMap (parseVersion? 16) ↔ v ∈ r.keyedVersions libid := by
  simp only [List.mem_filterMap, parseVersion?_eq_some_iff, keyedVersions, Set.mem_ofPred_eq]

theorem mem_wanted_iff :
    v ∈ ((r.versions libid).filterMap (parseVersion? 16)).filter
        (fun v => major.all fun M => v.1 = M) ↔ toLex v ∈ r.wantedVersions libid major := by
  simp only [List.mem_filter, mem_parsed_iff, wantedVersions, Set.mem_ofPred_eq, ofLex_toLex,
    Option.all_eq_true, decide_eq_true_eq, Option.mem_def]

theorem keyedVersions_eq_empty_iff :
    r.keyedVersions libid = ∅ ↔ (r.versions libid).filterMap (parseVersion? 16) = [] := by
  rw [Set.eq_empty_iff_forall_notMem, List.eq_nil_iff_forall_not_mem]
  exact forall_congr' fun v => not_congr mem_parsed_iff.symm

theorem wantedVersions_eq_empty_iff :
    r.wantedVersions libid major = ∅ ↔
      ((r.versions libid).filterMap (parseVersion? 16)).filter
        (fun v => major.all fun M => v.1 = M) = [] := by
  rw [Set.eq_empty_iff_forall_notMem, List.eq_nil_iff_forall_not_mem]
  exact forall_congr' fun v => not_congr mem_wanted_iff.symm

/-- What comes of looking for the highest version of a library. -/
inductive Found (r : Registry) (libid : Guid) (major : Option UInt16) :
    Except ResolutionError (UInt16 × UInt16) → Prop
  | unregistered (hnone : r.versions libid = []) :
      Found r libid major (.error (.notRegistered (.library libid)))
  | malformed (hsome : r.versions libid ≠ []) (hnone : r.keyedVersions libid = ∅) :
      Found r libid major
        (.error (.malformedVersion (.library libid) (", ".intercalate (r.versions libid))))
  | unwanted {M : UInt16} (hmajor : major = some M) (hsome : (r.keyedVersions libid).Nonempty)
      (hnone : r.wantedVersions libid major = ∅) :
      Found r libid major (.error (.notRegistered (.libraryMajor libid M)))
  | greatest {v : UInt16 × UInt16} (h : IsGreatest (r.wantedVersions libid major) (toLex v)) :
      Found r libid major (.ok v)

theorem highestVersion_found (r : Registry) (libid : Guid) (major : Option UInt16) :
    r.Found libid major (highestVersion r libid major) := by
  simp only [highestVersion]
  split
  · rename_i hnone
    exact .unregistered hnone
  · rename_i hsome
    split
    · rename_i hnone
      exact .malformed hsome (keyedVersions_eq_empty_iff.mpr hnone)
    · rename_i hkeyed
      have hnonempty : (r.keyedVersions libid).Nonempty :=
        Set.nonempty_iff_ne_empty.mpr (mt keyedVersions_eq_empty_iff.mp hkeyed)
      split
      · rename_i v hmax
        have hset : {w | ofLex w ∈ ((r.versions libid).filterMap (parseVersion? 16)).filter
            fun v => major.all fun M => v.1 = M} = r.wantedVersions libid major :=
          Set.ext fun w => mem_wanted_iff
        exact .greatest (hset ▸ maxVersion?_eq_some_iff.mp hmax)
      · rename_i hmax
        have hnone := maxVersion?_eq_none_iff.mp hmax
        rcases major with _ | M
        · exact absurd (by simpa using hnone) hkeyed
        · exact .unwanted rfl hnonempty (wantedVersions_eq_empty_iff.mpr hnone)

theorem versions_ne_nil (h : (r.keyedVersions libid).Nonempty) : r.versions libid ≠ [] := by
  obtain ⟨v, key, hkey, -⟩ := h
  exact List.ne_nil_of_mem hkey

theorem keyedVersions_nonempty (h : (r.wantedVersions libid major).Nonempty) :
    (r.keyedVersions libid).Nonempty := by
  obtain ⟨v, hv, -⟩ := h
  exact ⟨ofLex v, hv⟩

theorem eq_of_isGreatest {s : Set (UInt16 ×ₗ UInt16)} {w : UInt16 × UInt16}
    (hv : IsGreatest s (toLex v)) (hw : IsGreatest s (toLex w)) : v = w :=
  versionRank_injective (Nat.le_antisymm (versionRank_le_iff.mpr (hw.2 hv.1))
    (versionRank_le_iff.mpr (hv.2 hw.1)))

theorem wantedVersions_some_eq_empty_iff {M : UInt16} :
    r.wantedVersions libid (some M) = ∅ ↔ ∀ v ∈ r.keyedVersions libid, v.1 ≠ M := by
  rw [Set.eq_empty_iff_forall_notMem]
  constructor
  · exact fun h v hv hM => h (toLex v) ⟨hv, fun _ hsome => hM.trans (Option.some.inj hsome)⟩
  · exact fun h v ⟨hv, hM⟩ => h (ofLex v) hv (hM M rfl)

/-! ### The causes of each outcome -/

variable {found : Except ResolutionError (UInt16 × UInt16)}

theorem Found.unregistered_iff (h : r.Found libid major found) :
    found = .error (.notRegistered (.library libid)) ↔ r.versions libid = [] := by
  cases h with
  | unregistered hnone => simp [hnone]
  | malformed hsome => simp [hsome]
  | unwanted _ hsome => simp [versions_ne_nil hsome]
  | greatest h => simp [versions_ne_nil (keyedVersions_nonempty ⟨_, h.1⟩)]

theorem Found.malformed_iff (h : r.Found libid major found) :
    found =
        .error (.malformedVersion (.library libid) (", ".intercalate (r.versions libid))) ↔
      r.versions libid ≠ [] ∧ r.keyedVersions libid = ∅ := by
  cases h with
  | unregistered hnone => simp [hnone]
  | malformed hsome hnone => simp [hsome, hnone]
  | unwanted _ hsome => simp [hsome.ne_empty]
  | greatest h => simp [(keyedVersions_nonempty ⟨_, h.1⟩).ne_empty]

theorem Found.unwanted_iff (h : r.Found libid major found) (M : UInt16) :
    found = .error (.notRegistered (.libraryMajor libid M)) ↔
      major = some M ∧ (r.keyedVersions libid).Nonempty ∧ r.wantedVersions libid major = ∅ := by
  cases h with
  | unregistered hnone => simpa using fun _ hsome => absurd hnone (versions_ne_nil hsome)
  | malformed _ hnone => simp [hnone]
  | unwanted hmajor hsome hnone => simp [hmajor, hsome, hmajor ▸ hnone]
  | greatest h => simp [Set.Nonempty.ne_empty ⟨_, h.1⟩]

theorem Found.greatest_iff (h : r.Found libid major found) (v : UInt16 × UInt16) :
    found = .ok v ↔ IsGreatest (r.wantedVersions libid major) (toLex v) := by
  cases h with
  | unregistered hnone =>
    simpa using fun hv : IsGreatest _ _ =>
      versions_ne_nil (keyedVersions_nonempty ⟨_, hv.1⟩) hnone
  | malformed _ hnone =>
    simpa using fun hv : IsGreatest _ _ =>
      (keyedVersions_nonempty ⟨_, hv.1⟩).ne_empty hnone
  | unwanted _ _ hnone =>
    simpa using fun hv : IsGreatest _ _ => Set.Nonempty.ne_empty ⟨_, hv.1⟩ hnone
  | greatest hw =>
    constructor
    · rintro ⟨⟩
      exact hw
    · exact fun hv => congrArg Except.ok (eq_of_isGreatest hw hv)

theorem Found.exists_of_nonempty (h : r.Found libid major found)
    (hsome : (r.wantedVersions libid major).Nonempty) : ∃ v, found = .ok v := by
  cases h with
  | unregistered hnone => exact absurd hnone (versions_ne_nil (keyedVersions_nonempty hsome))
  | malformed _ hnone => exact absurd hnone (keyedVersions_nonempty hsome).ne_empty
  | unwanted _ _ hnone => exact absurd hnone hsome.ne_empty
  | greatest => exact ⟨_, rfl⟩

/-! ### Resolving -/

variable {files : Files} {base : Option Path} {lcid : Option UInt32}

theorem resolve_library : resolve files r base (.library libid major none lcid) =
    (highestVersion r libid major).map fun v =>
      ⟨.registered ⟨libid, v.1, v.2, lcid.getD 0⟩, false, none⟩ := by
  have hlibrary : resolveLibrary r libid major none lcid =
      (highestVersion r libid major).map fun v => ⟨libid, v.1, v.2, lcid.getD 0⟩ := by
    cases major <;> simp only [resolveLibrary] <;> cases highestVersion r libid _ <;> rfl
  rw [resolve, resolveRegistered, hlibrary]
  cases highestVersion r libid major <;> rfl

theorem resolve_library_eq_error_iff {e : ResolutionError} :
    resolve files r base (.library libid major none lcid) = .error e ↔
      highestVersion r libid major = .error e := by
  rw [resolve_library]
  cases highestVersion r libid major <;> simp [Except.map]

/-- The identity that is resolved has the greatest version. -/
theorem resolve_library_eq_ok_iff {i : Identity} :
    resolve files r base (.library libid major none lcid) = .ok ⟨.registered i, false, none⟩ ↔
      i.libid = libid ∧ i.lcid = lcid.getD 0 ∧
        IsGreatest (r.wantedVersions libid major) (toLex (i.major, i.minor)) := by
  rw [← (highestVersion_found r libid major).greatest_iff, resolve_library]
  rcases highestVersion r libid major with e | v
  · exact ⟨nofun, fun ⟨_, _, hpicked⟩ => nomatch hpicked⟩
  · constructor
    · rintro ⟨⟩
      exact ⟨rfl, rfl, rfl⟩
    · rintro ⟨rfl, hlcid, ⟨⟩⟩
      rw [← hlcid]
      rfl

theorem exists_resolved (h : (r.wantedVersions libid major).Nonempty) :
    ∃ v : UInt16 × UInt16, resolve files r base (.library libid major none lcid) =
      .ok ⟨.registered ⟨libid, v.1, v.2, lcid.getD 0⟩, false, none⟩ := by
  obtain ⟨v, hv⟩ := (highestVersion_found r libid major).exists_of_nonempty h
  exact ⟨v, by rw [resolve_library, hv]; rfl⟩

end

end Registry

/-- What is loaded for a registered library declares its identifier and version. -/
theorem Loader.declares_of_loadRegistered {loader : Loader} {files : Files} {i : Identity}
    {library : Library} (h : loader.loadRegistered files i = .ok library) :
    library.identity.libid = i.libid ∧ library.identity.major = i.major ∧
      library.identity.minor = i.minor := by
  simp only [loadRegistered] at h
  split at h
  · cases h
  · split at h
    · cases h
    · split at h
      · rename_i hdeclares
        cases h
        exact hdeclares
      · cases h

namespace Registry

/-- A library that is asked for without a minor version is not registered if it has no version
keys; the versions are malformed if none of its keys is a version; with a major version that no key
has, that major version is not registered; and otherwise the greatest version is picked.  Whatever
the files are, a library that is loaded then has this version. -/
theorem highest_resolved (files : Files) (r : Registry) (base : Option Path) (libid : Guid)
    (major : Option UInt16) (lcid : Option UInt32) :
    let resolved := resolve files r base (.library libid major none lcid)
    let picked (v : UInt16 × UInt16) : Target := .registered ⟨libid, v.1, v.2, lcid.getD 0⟩
    (resolved = .error (.notRegistered (.library libid)) ↔ r.versions libid = []) ∧
    (resolved =
        .error (.malformedVersion (.library libid) (", ".intercalate (r.versions libid))) ↔
      r.versions libid ≠ [] ∧ r.keyedVersions libid = ∅) ∧
    (∀ M, resolved = .error (.notRegistered (.libraryMajor libid M)) ↔
      major = some M ∧ (r.keyedVersions libid).Nonempty ∧ ∀ v ∈ r.keyedVersions libid, v.1 ≠ M) ∧
    (∀ v, resolved = .ok ⟨picked v, false, none⟩ ↔
      IsGreatest (r.wantedVersions libid major) (toLex v)) ∧
    ((r.wantedVersions libid major).Nonempty → ∃ v, resolved = .ok ⟨picked v, false, none⟩) ∧
    ∀ (loader : Loader) (later : Files) (v : UInt16 × UInt16) (library : Library),
      resolved = .ok ⟨picked v, false, none⟩ → loader.load later (picked v) = .ok library →
      library.identity.libid = libid ∧
        IsGreatest (r.wantedVersions libid major)
          (toLex (library.identity.major, library.identity.minor)) := by
  intro resolved picked
  have hfound := highestVersion_found r libid major
  have hok (v : UInt16 × UInt16) : resolved = .ok ⟨picked v, false, none⟩ ↔
      IsGreatest (r.wantedVersions libid major) (toLex v) := by
    refine resolve_library_eq_ok_iff.trans ?_
    simp only [true_and]
  refine ⟨resolve_library_eq_error_iff.trans hfound.unregistered_iff,
    resolve_library_eq_error_iff.trans hfound.malformed_iff, fun M => ?_, hok, exists_resolved,
    fun loader later v library hpicked hload => ?_⟩
  · refine (resolve_library_eq_error_iff.trans (hfound.unwanted_iff M)).trans ?_
    refine and_congr_right fun hmajor => and_congr_right fun _ => ?_
    rw [hmajor, wantedVersions_some_eq_empty_iff]
  · obtain ⟨hlibid, hmajor, hminor⟩ := Loader.declares_of_loadRegistered hload
    refine ⟨hlibid, ?_⟩
    rw [hmajor, hminor]
    exact (hok v).mp hpicked

/-! ## Hexadecimal keys -/

/-- A library of version 16.0. -/
def sixteen : Identity := ⟨⟨0x0000000a000000000000000000000000#128⟩, 16, 0, 0⟩

/-- Its descriptor. -/
def sixteenText : String :=
  "\x7b\"libid\":\"0000000a-0000-0000-0000-000000000000\",\"major\":16,\"minor\":0\x7d"

theorem sixteenText_parse : Descriptor.parse? sixteenText = some (.bare sixteen) :=
  Descriptor.parse?_eq_bare (by decide +kernel)

/-- The library is registered under the keys of 16.0 and of 9.0, the former of which comes first in
the order of texts, and a third key is no version.  Version 16.0 is picked and loaded, and there is
no version with major number 10. -/
theorem highest_resolved_sixteen :
    let paths (path : String) : Table String Path := Table.empty.insert "0" ⟨path⟩
    let r := ((Registry.empty.withPaths sixteen.libid "9.0" (paths "/nine.json")).withPaths
      sixteen.libid "10.0" (paths "/sixteen.json")).withPaths sixteen.libid "latest" .empty
    let files : Files := ⟨.ofList [(["sixteen.json"], .file sixteenText.toUTF8)], none⟩
    resolve files r none (.library sixteen.libid none none none) =
        .ok ⟨.registered sixteen, false, none⟩ ∧
      (Loader.mk r []).load files (.registered sixteen) =
        .ok ⟨.bare sixteen, some ⟨"/sixteen.json"⟩⟩ ∧
      IsGreatest (r.wantedVersions sixteen.libid none) (toLex (16, 0)) ∧
      resolve files r none (.library sixteen.libid (some 10) none none) =
        .error (.notRegistered (.libraryMajor sixteen.libid 10)) ∧
      ∀ v ∈ r.keyedVersions sixteen.libid, v.1 ≠ 10 := by
  intro paths r files
  have hpicked : resolveLibrary r sixteen.libid none none none = .ok sixteen := by decide
  have hresolve := Loader.resolve_of_resolveLibrary hpicked files none
  have hrefused : resolveLibrary r sixteen.libid (some 10) none none =
      .error (.notRegistered (.libraryMajor sixteen.libid 10)) := by decide
  have hunwanted : resolve files r none (.library sixteen.libid (some 10) none none) =
      .error (.notRegistered (.libraryMajor sixteen.libid 10)) := by
    rw [resolve, hrefused]
    rfl
  have hpath : (Loader.mk r []).registeredPath? sixteen = some ⟨"/sixteen.json"⟩ := by
    decide
  have hload : (Loader.mk r []).load files (.registered sixteen) =
      .ok ⟨.bare sixteen, some ⟨"/sixteen.json"⟩⟩ := by
    have hfind : files.find ⟨"/sixteen.json"⟩ =
        .ok (["sixteen.json"], .file sixteenText.toUTF8) := by decide
    have hread : files.readText ⟨"/sixteen.json"⟩ = .ok sixteenText :=
      Files.readText_of_readBytes (by simp only [Files.readBytes, hfind])
    have habsolute : (⟨"/sixteen.json"⟩ : Path).isAbsolute = true := by decide
    simp only [Loader.load, Loader.loadRegistered, hpath, Loader.loadPath, Loader.fileOf, habsolute,
      if_true, readDescriptor, hread, sixteenText_parse]
    rfl
  obtain ⟨-, -, -, -, -, hloaded⟩ := highest_resolved files r none sixteen.libid none none
  obtain ⟨-, -, hcause, -⟩ := highest_resolved files r none sixteen.libid (some 10) none
  exact ⟨hresolve, hload, (hloaded _ files (16, 0) _ hresolve hload).2, hunwanted,
    ((hcause 10).mp hunwanted).2.2⟩

end Registry

end Typelib
