import Typelib.Library.Load
import Typelib.Proofs.Text.Reading
import Typelib.Proofs.Text.Segments
import Typelib.Registry.Snapshot

/-!
# Version keys

A library that is asked for without a version gets the highest one that a version key spells
(`Spells`), and many keys spell one version: capitals, leading zeros, plus signs and blanks at the
ends make no difference.  Loading looks under one key only.  Whatever is registered under a key that
spells the version is found exactly if the key is plain (`consults_iff_isPlainKey`); so a version
that is picked can be loaded exactly if one of the keys that spell it is plain
(`resolved_opened_iff`).
-/

namespace Typelib

/-! ## Keys that are read -/

namespace Registry

open Text

/-- The key is read as the version of a library. -/
def Spells (key : String) (i : Identity) : Prop :=
  parseVersion? 16 key = some (i.major, i.minor)

/-- Two plain numbers and a dot between them. -/
def IsPlainKey (key : String) : Prop :=
  ∃ major minor, key.toList = major ++ '.' :: minor ∧ IsPlain major ∧ IsPlain minor

theorem toList_versionKey (major minor : UInt16) :
    (versionKey major minor).toList =
      Nat.toDigits 16 major.toNat ++ '.' :: Nat.toDigits 16 minor.toNat := by
  simp [versionKey, hexadecimal]

theorem dot_not_mem_of_isPlain {cs : List Char} (h : IsPlain cs) : '.' ∉ cs :=
  fun hdot => absurd (h.lower _ hdot) (by decide)

theorem isBlank_of_isPlainKey {major minor : List Char} (hmajor : IsPlain major)
    (hminor : IsPlain minor) : ∀ c ∈ major ++ '.' :: minor, isBlank c = false := by
  intro c hc
  rcases List.mem_append.mp hc with hc | hc
  · exact isBlank_of_isLowerHex (hmajor.lower c hc)
  · rcases List.mem_cons.mp hc with rfl | hc
    · decide
    · exact isBlank_of_isLowerHex (hminor.lower c hc)

/-- A plain key is read number by number. -/
theorem parseVersion?_of_isPlain {key : String} {major minor : List Char}
    (hkey : key.toList = major ++ '.' :: minor) (hmajor : IsPlain major) (hminor : IsPlain minor) :
    parseVersion? 16 key = match word16? 16 major, word16? 16 minor with
      | some M, some m => some (M, m)
      | _, _ => none := by
  rw [parseVersion?, hkey, trim_eq_self (isBlank_of_isPlainKey hmajor hminor),
    cut_append (dot_not_mem_of_isPlain hmajor)]
  rfl

/-- The key of a version spells it. -/
theorem parseVersion?_versionKey (major minor : UInt16) :
    parseVersion? 16 (versionKey major minor) = some (major, minor) := by
  rw [parseVersion?_of_isPlain (toList_versionKey major minor) (isPlain_toDigits _)
    (isPlain_toDigits _), word16?_toDigits (by decide) (by decide),
    word16?_toDigits (by decide) (by decide)]

theorem isPlainKey_versionKey (major minor : UInt16) : IsPlainKey (versionKey major minor) :=
  ⟨_, _, toList_versionKey major minor, isPlain_toDigits _, isPlain_toDigits _⟩

/-- Of the keys that spell a version exactly one is plain. -/
theorem Spells.eq_versionKey_iff {key : String} {i : Identity} (h : Spells key i) :
    key = versionKey i.major i.minor ↔ IsPlainKey key := by
  constructor
  · rintro rfl
    exact isPlainKey_versionKey _ _
  · rintro ⟨major, minor, hkey, hmajor, hminor⟩
    rw [Spells, parseVersion?_of_isPlain hkey hmajor hminor] at h
    rcases hM : word16? 16 major with _ | M
    · simp [hM] at h
    · rcases hm : word16? 16 minor with _ | m
      · simp [hM, hm] at h
      · obtain ⟨rfl, rfl⟩ : M = i.major ∧ m = i.minor := by simpa [hM, hm] using h
        rw [← String.toList_inj, toList_versionKey, hkey,
          ← (word16?_eq_toDigits_iff hM).mpr hmajor, ← (word16?_eq_toDigits_iff hm).mpr hminor]

/-! ## The version that is picked -/

theorem higher_eq_or (v w : UInt16 × UInt16) : higher v w = v ∨ higher v w = w := by
  unfold higher
  split
  · exact .inr rfl
  · exact .inl rfl

theorem foldl_higher_mem (v : UInt16 × UInt16) (rest : List (UInt16 × UInt16)) :
    rest.foldl higher v ∈ v :: rest := by
  induction rest generalizing v with
  | nil => exact List.mem_singleton.mpr rfl
  | cons w rest ih =>
    rw [List.foldl_cons]
    rcases List.mem_cons.mp (ih (higher v w)) with heq | hrest
    · rcases higher_eq_or v w with hv | hw
      · exact List.mem_cons.mpr (.inl (heq.trans hv))
      · exact List.mem_cons_of_mem _ (List.mem_cons.mpr (.inl (heq.trans hw)))
    · exact List.mem_cons_of_mem _ (List.mem_cons_of_mem _ hrest)

theorem maxVersion?_mem {versions : List (UInt16 × UInt16)} {v : UInt16 × UInt16}
    (h : maxVersion? versions = some v) : v ∈ versions := by
  rcases versions with _ | ⟨w, rest⟩
  · cases h
  · rw [← Option.some.inj h]
    exact foldl_higher_mem w rest

/-- The version that is picked is spelled by a key of the library. -/
theorem exists_key_of_highestVersion {r : Registry} {libid : Guid} {major : Option UInt16}
    {v : UInt16 × UInt16} (h : highestVersion r libid major = .ok v) :
    ∃ key ∈ r.versions libid, parseVersion? 16 key = some v := by
  simp only [highestVersion] at h
  split at h
  · cases h
  · split at h
    · cases h
    · split at h
      · rename_i w hmax
        cases h
        exact List.mem_filterMap.mp (List.mem_filter.mp (maxVersion?_mem hmax)).1
      · cases h

/-- A library designator without a version leads to the version that is picked. -/
theorem identity_of_resolve {files : Files} {r : Registry} {base : Option Path} {libid : Guid}
    {lcid : Option UInt32} {i : Identity}
    (h : resolve files r base (.library libid none none lcid) =
      .ok ⟨.registered i, false, none⟩) :
    i.libid = libid ∧ highestVersion r libid none = .ok (i.major, i.minor) := by
  simp only [resolve, resolveRegistered, resolveLibrary] at h
  rcases hpicked : highestVersion r libid none with e | ⟨M, m⟩
  · rw [hpicked] at h
    cases h
  · rw [hpicked] at h
    cases h
    exact ⟨rfl, rfl⟩

/-! ## The key that is looked under -/

/-- The registry with other paths under a version key of a library. -/
def withPaths (r : Registry) (libid : Guid) (key : String) (paths : Table String Path) : Registry :=
  let versions := (r.typelibs.get? libid).getD .empty
  { r with typelibs := r.typelibs.insert libid (versions.insert key paths) }

/-- Of the paths of a version the one for a locale, or else the one for the neutral locale. -/
def localePath? (paths : Table String Path) (lcid : UInt32) : Option Path :=
  (paths.get? (localeKey lcid)).or (paths.get? "0")

/-- The path registered under a version key for a locale, or else for the neutral one. -/
def pathUnder? (r : Registry) (libid : Guid) (key : String) (lcid : UInt32) : Option Path :=
  (r.path? libid key (localeKey lcid)).or (r.path? libid key "0")

theorem path?_withPaths_self (r : Registry) (libid : Guid) (key locale : String)
    (paths : Table String Path) :
    (r.withPaths libid key paths).path? libid key locale = paths.get? locale := by
  simp [path?, withPaths, Table.get?_insert]

theorem path?_withPaths_of_ne (r : Registry) (libid : Guid) {key other : String} (h : other ≠ key)
    (locale : String) (paths : Table String Path) :
    (r.withPaths libid key paths).path? libid other locale = r.path? libid other locale := by
  rcases hentry : r.typelibs.get? libid with _ | versions
  · simp [path?, withPaths, Table.get?_insert, hentry, h]
  · simp [path?, withPaths, Table.get?_insert, hentry, h]

theorem mem_versions_of_path? {r : Registry} {libid : Guid} {key locale : String} {p : Path}
    (h : r.path? libid key locale = some p) : key ∈ r.versions libid := by
  obtain ⟨versions, hversions, hpath⟩ := Option.bind_eq_some_iff.mp h
  obtain ⟨paths, hpaths, -⟩ := Option.bind_eq_some_iff.mp hpath
  rw [Registry.versions, sortedTexts, mem_ascending, hversions, Option.getD_some,
    ← Table.contains_iff, Table.contains, hpaths]
  rfl

end Registry

namespace Loader

open Registry

/-- Looking a library up finds what is registered for it under a version key, whatever that is. -/
def Consults (loader : Loader) (i : Identity) (key : String) : Prop :=
  ∀ paths,
    registeredPath? { loader with registry := loader.registry.withPaths i.libid key paths } i =
      localePath? paths i.lcid

theorem consults_versionKey (loader : Loader) (i : Identity) :
    loader.Consults i (versionKey i.major i.minor) := by
  intro paths
  simp only [registeredPath?, path?_withPaths_self, localePath?]

theorem consults_iff {loader : Loader} {i : Identity} {key : String} :
    loader.Consults i key ↔ key = versionKey i.major i.minor := by
  constructor
  · intro h
    by_contra hne
    -- under another key it makes no difference whether there is a path or none
    have hsame : ∀ paths, localePath? paths i.lcid = loader.registeredPath? i := by
      intro paths
      rw [← h paths]
      simp only [registeredPath?, path?_withPaths_of_ne _ _ (Ne.symm hne)]
    have hsome := (hsame (Table.empty.insert "0" ⟨"/"⟩)).trans (hsame .empty).symm
    have hzero : (Table.empty.insert "0" (⟨"/"⟩ : Path)).get? "0" = some ⟨"/"⟩ := rfl
    simp [localePath?, hzero] at hsome
  · rintro rfl
    exact loader.consults_versionKey i

/-- Of the keys that spell the version of a library, the plain one is looked under. -/
theorem consults_iff_isPlainKey {loader : Loader} {i : Identity} {key : String}
    (h : Spells key i) : loader.Consults i key ↔ IsPlainKey key :=
  consults_iff.trans h.eq_versionKey_iff

theorem registeredPath?_of_isPlainKey {loader : Loader} {i : Identity} {key : String}
    (h : Spells key i) (hplain : IsPlainKey key) :
    loader.registeredPath? i = loader.registry.pathUnder? i.libid key i.lcid := by
  rw [h.eq_versionKey_iff.mpr hplain]
  rfl

/-- A library none of whose version keys is the plain one of its version is not found. -/
theorem loadRegistered_of_not_mem {loader : Loader} {i : Identity}
    (h : versionKey i.major i.minor ∉ loader.registry.versions i.libid) (files : Files) :
    loader.loadRegistered files i = .error (.missing i.text) := by
  have hnone : ∀ locale,
      loader.registry.path? i.libid (versionKey i.major i.minor) locale = none := fun locale =>
    Option.eq_none_iff_forall_ne_some.mpr fun p hp => h (mem_versions_of_path? hp)
  simp only [loadRegistered, registeredPath?, hnone, Option.or_none]

/-- A library that is asked for without a version is picked because of keys that spell its version.
What is registered under such a key is found by loading exactly if the key is plain; if none of
them is, the library is not found, whatever is registered and whatever files there are. -/
theorem resolved_opened_iff (loader : Loader) {files : Files} {base : Option Path} {libid : Guid}
    {lcid : Option UInt32} {i : Identity}
    (hresolve : resolve files loader.registry base (.library libid none none lcid) =
      .ok ⟨.registered i, false, none⟩) :
    let versions := loader.registry.versions libid
    (∃ key ∈ versions, Spells key i) ∧
    ((∃ key ∈ versions, Spells key i ∧ loader.Consults i key) ↔
      ∃ key ∈ versions, Spells key i ∧ IsPlainKey key) ∧
    (∀ key ∈ versions, Spells key i → IsPlainKey key → ∀ p,
      loader.registry.pathUnder? libid key i.lcid = some p → loader.registeredPath? i = some p) ∧
    ((∀ key ∈ versions, Spells key i → ¬IsPlainKey key) →
      ∀ later, loader.load later (.registered i) = .error (.missing i.text)) := by
  intro versions
  obtain ⟨hlibid, hpicked⟩ := identity_of_resolve hresolve
  obtain ⟨key, hkey, hspells⟩ := exists_key_of_highestVersion hpicked
  refine ⟨⟨key, hkey, hspells⟩, ?_, ?_, fun hnone later => ?_⟩
  · exact exists_congr fun key => and_congr_right fun _ =>
      and_congr_right fun h => consults_iff_isPlainKey h
  · intro key _ hspells hplain p hp
    rw [registeredPath?_of_isPlainKey hspells hplain, hlibid, hp]
  · refine loadRegistered_of_not_mem (fun hmem => ?_) later
    rw [hlibid] at hmem
    exact hnone _ hmem (parseVersion?_versionKey _ _) (isPlainKey_versionKey _ _)

/-! ## One version under several keys -/

theorem resolve_of_resolveLibrary {r : Registry} {libid : Guid} {lcid : Option UInt32}
    {i : Identity} (h : resolveLibrary r libid none none lcid = .ok i) (files : Files)
    (base : Option Path) :
    resolve files r base (.library libid none none lcid) = .ok ⟨.registered i, false, none⟩ := by
  simp only [resolve, h]
  rfl

/-- A library with four version keys, two of which spell version 10.0; the locale that is asked for
is registered under the plain one. -/
theorem resolved_opened_twice_spelled :
    let paths (locale path : String) : Table String Path := Table.empty.insert locale ⟨path⟩
    let r := (((Registry.empty.withPaths ⟨7⟩ "09.0" (paths "0" "/nine.json")).withPaths ⟨7⟩ " 0A.0"
      (paths "0" "/ten.json")).withPaths ⟨7⟩ "a.0" (paths "409" "/english.json")).withPaths ⟨7⟩
      "latest" .empty
    let i : Identity := ⟨⟨7⟩, 10, 0, 0x409⟩
    resolve ⟨.empty, none⟩ r none (.library ⟨7⟩ none none (some 0x409)) =
        .ok ⟨.registered i, false, none⟩ ∧
      Spells " 0A.0" i ∧ Spells "a.0" i ∧ IsPlainKey "a.0" ∧
      (∃ key ∈ r.versions ⟨7⟩, Spells key i ∧ (Loader.mk r []).Consults i key) ∧
      (Loader.mk r []).registeredPath? i = some ⟨"/english.json"⟩ := by
  intro paths r i
  have hpicked : resolveLibrary r ⟨7⟩ none none (some 0x409) = .ok i := by decide
  have hresolve := resolve_of_resolveLibrary hpicked ⟨.empty, none⟩ none
  have hkeys : r.versions ⟨7⟩ = [" 0A.0", "09.0", "a.0", "latest"] := by decide
  have hmem : "a.0" ∈ r.versions ⟨7⟩ := by rw [hkeys]; decide
  have hcapital : Spells " 0A.0" i := by unfold Spells; decide
  have hspells : Spells "a.0" i := parseVersion?_versionKey 10 0
  have hplain : IsPlainKey "a.0" := isPlainKey_versionKey 10 0
  obtain ⟨-, hopened, hfound, -⟩ := resolved_opened_iff ⟨r, []⟩ hresolve
  exact ⟨hresolve, hcapital, hspells, hplain, hopened.mpr ⟨_, hmem, hspells, hplain⟩,
    hfound _ hmem hspells hplain _ (by decide)⟩

/-- A snapshot in which the key of the only version of a library has a capital in it. -/
def capitalSnapshot : String :=
  "\x7b\"typelibs\":\x7b\"0000000A-0000-0000-0000-000000000000\":" ++
    "\x7b\"A.0\":\x7b\"0\":\"/a.json\"\x7d\x7d\x7d\x7d"

/-- The version of that snapshot is picked, but what is registered under its key is not looked
under, and the library is not found. -/
theorem capital_not_found :
    let i : Identity := ⟨⟨0x0000000A000000000000000000000000⟩, 10, 0, 0⟩
    ∃ r, Registry.parse? capitalSnapshot = some r ∧
      (∀ files base, resolve files r base (.library i.libid none none none) =
        .ok ⟨.registered i, false, none⟩) ∧
      Spells "A.0" i ∧ r.pathUnder? i.libid "A.0" i.lcid = some ⟨"/a.json"⟩ ∧
      (¬∃ key ∈ r.versions i.libid, Spells key i ∧ (Loader.mk r []).Consults i key) ∧
      ∀ files, (Loader.mk r []).load files (.registered i) = .error (.missing i.text) := by
  intro i
  let r := Registry.empty.withPaths i.libid "A.0" (Table.empty.insert "0" ⟨"/a.json"⟩)
  have hfields : (Registry.parse? capitalSnapshot).map (fun r => (r.classes, r.typelibs)) =
      some (r.classes, r.typelibs) := by decide
  obtain ⟨read, hread, hsame⟩ := Option.map_eq_some_iff.mp hfields
  have hr : read = r := by
    obtain ⟨hclasses, htypelibs⟩ := Prod.mk.inj hsame
    cases read
    exact congrArg₂ Registry.mk hclasses htypelibs
  have hpicked : resolveLibrary r i.libid none none none = .ok i := by decide
  have hkeys : r.versions i.libid = ["A.0"] := by decide
  have habsent : versionKey i.major i.minor ∉ r.versions i.libid := by
    rw [hkeys]
    decide
  refine ⟨r, hread.trans (congrArg some hr), resolve_of_resolveLibrary hpicked, ?_, ?_, ?_, ?_⟩
  · unfold Spells
    decide
  · decide
  · rintro ⟨key, hmem, -, hconsults⟩
    exact habsent (consults_iff.mp hconsults ▸ hmem)
  · exact loadRegistered_of_not_mem habsent

end Loader

end Typelib
