import Typelib.Proofs.Registry.Highest

/-!
# Registering

A registry is built by entering classes and libraries into it, one after the other
(`Registry.after`).  Each entry of a library says where it is in one version and one locale, and it
changes what is found for exactly these (`Registry.path?_withTypelib`), since different versions and
different locales have different keys.  So the last entry for a library counts, and without a
version the greatest one is picked that there was an entry for (`last_registered_used`).
-/

namespace Typelib

/-- An entry into a registry. -/
inductive Registration where
  | coClass (clsid libid : Guid) (version : String)
  | library (i : Identity) (path : Path)

namespace Registration

/-- The path that is entered for a library. -/
def path? (i : Identity) : Registration → Option Path
  | coClass .. => none
  | library j path => if i = j then some path else none

/-- The path that was entered last for a library. -/
def lastPath? (calls : List Registration) (i : Identity) : Option Path :=
  calls.reverse.findSome? (path? i)

/-- The versions of a library that there was an entry for. -/
def versions (calls : List Registration) (libid : Guid) : Set (UInt16 × UInt16) :=
  {v | ∃ i path, library i path ∈ calls ∧ i.libid = libid ∧ (i.major, i.minor) = v}

theorem lastPath?_append (calls : List Registration) (call : Registration) (i : Identity) :
    lastPath? (calls ++ [call]) i = (call.path? i).or (lastPath? calls i) := by
  simp only [lastPath?, List.reverse_append, List.reverse_singleton, List.singleton_append,
    List.findSome?_cons]
  cases call.path? i <;> rfl

end Registration

open Registration

namespace Registry

open Text

/-- The registry with one more entry. -/
def register (r : Registry) : Registration → Registry
  | .coClass clsid libid version => r.withClass clsid libid version
  | .library i path => r.withTypelib i path

/-- The registry with some more entries, the last one of which was made last. -/
def after (r : Registry) (calls : List Registration) : Registry := calls.foldl register r

theorem after_append (r : Registry) (calls : List Registration) (call : Registration) :
    r.after (calls ++ [call]) = (r.after calls).register call := by
  rw [after, List.foldl_append]
  rfl

/-! ## Keys -/

theorem versionKey_inj {major minor otherMajor otherMinor : UInt16} :
    versionKey major minor = versionKey otherMajor otherMinor ↔
      major = otherMajor ∧ minor = otherMinor := by
  constructor
  · intro h
    have hread := congrArg (parseVersion? 16) h
    rw [parseVersion?_versionKey, parseVersion?_versionKey] at hread
    exact Prod.mk.inj (Option.some.inj hread)
  · rintro ⟨rfl, rfl⟩
    rfl

theorem localeKey_inj {lcid other : UInt32} : localeKey lcid = localeKey other ↔ lcid = other := by
  constructor
  · intro h
    have hread := congrArg (natural? 16) (String.ofList_injective h)
    rw [natural?_toDigits (by decide) (by decide),
      natural?_toDigits (by decide) (by decide)] at hread
    exact UInt32.toNat_inj.mp (Option.some.inj hread)
  · rintro rfl
    rfl

/-! ## One entry -/

section

variable {r : Registry} {i j : Identity} {p : Path}

theorem path?_withTypelib_key {libid : Guid} {key locale : String} :
    (r.withTypelib j p).path? libid key locale =
      if libid = j.libid ∧ key = versionKey j.major j.minor ∧ locale = localeKey j.lcid then some p
      else r.path? libid key locale := by
  by_cases hlibid : libid = j.libid
  · subst hlibid
    by_cases hkey : key = versionKey j.major j.minor
    · subst hkey
      -- the entries that were there before are kept, if there were any
      rcases hversions : r.typelibs.get? j.libid with _ | versions
      · simp [path?, withTypelib, Table.get?_insert, hversions]
      · rcases hlocales : versions.get? (versionKey j.major j.minor) with _ | locales
        · simp [path?, withTypelib, Table.get?_insert, hversions, hlocales]
        · simp [path?, withTypelib, Table.get?_insert, hversions, hlocales]
    · rcases hversions : r.typelibs.get? j.libid with _ | versions
      · simp [path?, withTypelib, Table.get?_insert, hversions, hkey]
      · simp [path?, withTypelib, Table.get?_insert, hversions, hkey]
  · simp [path?, withTypelib, Table.get?_insert, hlibid]

/-- Entering the path of a library changes what is found for this library, version and locale
only. -/
theorem path?_withTypelib :
    (r.withTypelib j p).path? i.libid (versionKey i.major i.minor) (localeKey i.lcid) =
      if i = j then some p
      else r.path? i.libid (versionKey i.major i.minor) (localeKey i.lcid) := by
  have hsame : i = j ↔ i.libid = j.libid ∧
      versionKey i.major i.minor = versionKey j.major j.minor ∧
        localeKey i.lcid = localeKey j.lcid := by
    rw [versionKey_inj, localeKey_inj]
    obtain ⟨libid, major, minor, lcid⟩ := i
    obtain ⟨otherLibid, otherMajor, otherMinor, otherLcid⟩ := j
    simp only [Identity.mk.injEq, and_assoc]
  rw [path?_withTypelib_key, if_congr hsame.symm rfl rfl]

/-- Entering the path of a library adds the key of its version. -/
theorem mem_versions_withTypelib {libid : Guid} {key : String} :
    key ∈ (r.withTypelib j p).versions libid ↔
      (libid = j.libid ∧ key = versionKey j.major j.minor) ∨ key ∈ r.versions libid := by
  by_cases hlibid : libid = j.libid
  · subst hlibid
    simp [Registry.versions, withTypelib, sortedTexts, mem_ascending, Table.get?_insert,
      Table.mem_keys_insert]
  · simp [Registry.versions, withTypelib, Table.get?_insert, hlibid]

end

/-! ## All entries -/

variable {calls : List Registration}

/-- Under the keys of a library there is the path that was entered for it last. -/
theorem path?_after (i : Identity) :
    (empty.after calls).path? i.libid (versionKey i.major i.minor) (localeKey i.lcid) =
      lastPath? calls i := by
  induction calls using List.reverseRecOn with
  | nil => rfl
  | append_singleton calls call ih =>
    rw [after_append, lastPath?_append, ← ih]
    cases call with
    | coClass clsid libid version => rfl
    | library j p =>
      rw [register, path?_withTypelib, Registration.path?]
      split <;> rfl

/-- The version keys are those of the libraries that there was an entry for. -/
theorem mem_versions_after {libid : Guid} {key : String} :
    key ∈ (empty.after calls).versions libid ↔
      ∃ i path, .library i path ∈ calls ∧ i.libid = libid ∧ key = versionKey i.major i.minor := by
  induction calls using List.reverseRecOn with
  | nil =>
    have hnone : (empty.after []).versions libid = [] := rfl
    simp [hnone]
  | append_singleton calls call ih =>
    rw [after_append]
    cases call with
    | coClass clsid other version =>
      have hkept : ((empty.after calls).register (.coClass clsid other version)).versions libid =
          (empty.after calls).versions libid := rfl
      simp [hkept, ih]
    | library j p =>
      rw [register, mem_versions_withTypelib, ih]
      simp only [List.mem_append, List.mem_singleton, Registration.library.injEq]
      constructor
      · rintro (⟨rfl, hkey⟩ | ⟨i, path, hmem, hi⟩)
        · exact ⟨j, p, .inr ⟨rfl, rfl⟩, rfl, hkey⟩
        · exact ⟨i, path, .inl hmem, hi⟩
      · rintro ⟨i, path, hmem | ⟨rfl, rfl⟩, hi⟩
        · exact .inr ⟨i, path, hmem, hi⟩
        · exact .inl ⟨hi.1.symm, hi.2⟩

/-- The keys are versions, namely those that there was an entry for. -/
theorem keyedVersions_after (libid : Guid) :
    (empty.after calls).keyedVersions libid = Registration.versions calls libid := by
  refine Set.ext fun v => ?_
  have hread {major minor : UInt16} :
      IsVersionKey (versionKey major minor) v ↔ (major, minor) = v := by
    rw [← parseVersion?_eq_some_iff, parseVersion?_versionKey, Option.some_inj]
  constructor
  · rintro ⟨key, hkey, hversion⟩
    obtain ⟨i, path, hmem, hlibid, rfl⟩ := mem_versions_after.mp hkey
    exact ⟨i, path, hmem, hlibid, hread.mp hversion⟩
  · rintro ⟨i, path, hmem, hlibid, hversion⟩
    exact ⟨_, mem_versions_after.mpr ⟨i, path, hmem, hlibid, rfl⟩, hread.mpr hversion⟩

theorem wantedVersions_after (libid : Guid) (major : Option UInt16) :
    (empty.after calls).wantedVersions libid major =
      {v | ofLex v ∈ Registration.versions calls libid ∧ ∀ M ∈ major, (ofLex v).1 = M} := by
  rw [wantedVersions, keyedVersions_after]

end Registry

namespace Loader

/-- Loading a library means loading what is in the file of a path, which has to declare it. -/
structure Uses (loader : Loader) (i : Identity) (p : Path) : Prop where
  path : loader.registeredPath? i = some p
  error : ∀ files e, loader.loadPath files p = .error e →
    loader.load files (.registered i) = .error e
  ok_iff : ∀ files library, loader.load files (.registered i) = .ok library ↔
    loader.loadPath files p = .ok library ∧ library.identity.libid = i.libid ∧
      library.identity.major = i.major ∧ library.identity.minor = i.minor

theorem uses_of_registeredPath? {loader : Loader} {i : Identity} {p : Path}
    (h : loader.registeredPath? i = some p) : loader.Uses i p := by
  refine ⟨h, fun files e he => ?_, fun files library => ⟨fun hload => ?_, ?_⟩⟩
  · simp only [load, loadRegistered, h, he]
  · refine ⟨?_, declares_of_loadRegistered hload⟩
    simp only [load, loadRegistered, h] at hload
    split at hload
    · cases hload
    · rename_i loaded hloaded
      split at hload
      · exact hload ▸ hloaded
      · cases hload
  · rintro ⟨hloaded, hdeclares⟩
    simp only [load, loadRegistered, h, hloaded, hdeclares, and_self, if_true]

theorem registeredPath?_after (calls : List Registration) (searchPaths : List Path)
    (i : Identity) :
    registeredPath? ⟨Registry.empty.after calls, searchPaths⟩ i =
      (lastPath? calls i).or (lastPath? calls { i with lcid := 0 }) := by
  have hneutral : Registry.localeKey 0 = "0" := by decide
  rw [← Registry.path?_after, ← Registry.path?_after, hneutral]
  rfl

end Loader

/-- After any entries into an empty registry the path of a library is the one that was entered last
for exactly its identifier, version and locale, or else for its identifier and version in the
neutral locale; without either the library is missing.  A library that is asked for without a minor
version gets the greatest version that there was an entry for, within the major version that is
asked for if there is one. -/
theorem last_registered_used (calls : List Registration) (searchPaths : List Path) :
    let registry := Registry.empty.after calls
    let loader : Loader := ⟨registry, searchPaths⟩
    (∀ i, match (lastPath? calls i).or (lastPath? calls { i with lcid := 0 }) with
      | some p => loader.Uses i p
      | none => ∀ files, loader.load files (.registered i) = .error (.missing i.text)) ∧
    ∀ files base libid major lcid,
      let resolved := resolve files registry base (.library libid major none lcid)
      let wanted : Set (UInt16 ×ₗ UInt16) :=
        {v | ofLex v ∈ Registration.versions calls libid ∧ ∀ M ∈ major, (ofLex v).1 = M}
      (∀ i, resolved = .ok ⟨.registered i, false, none⟩ ↔
        i.libid = libid ∧ i.lcid = lcid.getD 0 ∧ IsGreatest wanted (toLex (i.major, i.minor))) ∧
      (wanted.Nonempty → ∃ i, resolved = .ok ⟨.registered i, false, none⟩) := by
  intro registry loader
  refine ⟨fun i => ?_, fun files base libid major lcid => ?_⟩
  · have hpath : loader.registeredPath? i = _ := Loader.registeredPath?_after calls searchPaths i
    split
    · rename_i p hlast
      exact Loader.uses_of_registeredPath? (hpath.trans hlast)
    · rename_i hnone
      intro files
      simp only [Loader.load, Loader.loadRegistered, hpath, hnone]
  · intro resolved wanted
    have hwanted : registry.wantedVersions libid major = wanted :=
      Registry.wantedVersions_after libid major
    refine ⟨fun i => hwanted ▸ Registry.resolve_library_eq_ok_iff, fun hsome => ?_⟩
    obtain ⟨v, hv⟩ := Registry.exists_resolved (hwanted.symm ▸ hsome)
    exact ⟨_, hv⟩

/-- A library is entered for 9.0, twice for 16.0, and then for 16.0 in one more locale.  Other
locales use the path that was entered last for the neutral one, 16.0 is the greatest version, and
1.0 is missing. -/
theorem last_registered_used_sixteen :
    let library (major : UInt16) (lcid : UInt32) (path : String) : Registration :=
      .library ⟨⟨7⟩, major, 0, lcid⟩ ⟨path⟩
    let calls := [library 16 0 "/first.json", library 9 0 "/nine.json", library 16 0 "/last.json",
      .coClass ⟨8⟩ ⟨7⟩ "1.0", library 16 0x409 "/english.json"]
    let registry := Registry.empty.after calls
    let loader : Loader := ⟨registry, []⟩
    loader.Uses ⟨⟨7⟩, 16, 0, 0x409⟩ ⟨"/english.json"⟩ ∧
      loader.Uses ⟨⟨7⟩, 16, 0, 0x407⟩ ⟨"/last.json"⟩ ∧
      (∀ files, loader.load files (.registered ⟨⟨7⟩, 1, 0, 0⟩) =
        .error (.missing (Identity.mk ⟨7⟩ 1 0 0).text)) ∧
      (∃ i, resolve ⟨.empty, none⟩ registry none (.library ⟨7⟩ none none none) =
        .ok ⟨.registered i, false, none⟩) ∧
      IsGreatest {v : UInt16 ×ₗ UInt16 | ofLex v ∈ Registration.versions calls ⟨7⟩ ∧
        ∀ M ∈ (none : Option UInt16), (ofLex v).1 = M} (toLex (16, 0)) := by
  intro library calls registry loader
  obtain ⟨hpaths, hversions⟩ := last_registered_used calls []
  obtain ⟨hgreatest, hsome⟩ := hversions ⟨.empty, none⟩ none ⟨7⟩ none none
  have hpicked : resolveLibrary registry ⟨7⟩ none none none = .ok ⟨⟨7⟩, 16, 0, 0⟩ := by
    decide
  have hresolve := Loader.resolve_of_resolveLibrary hpicked ⟨.empty, none⟩ none
  have hmem : (16, 0) ∈ Registration.versions calls ⟨7⟩ :=
    ⟨⟨⟨7⟩, 16, 0, 0⟩, ⟨"/first.json"⟩, List.mem_cons_self, rfl, rfl⟩
  exact ⟨hpaths ⟨⟨7⟩, 16, 0, 0x409⟩, hpaths ⟨⟨7⟩, 16, 0, 0x407⟩, hpaths ⟨⟨7⟩, 1, 0, 0⟩,
    hsome ⟨toLex (16, 0), hmem, nofun⟩, ((hgreatest _).mp hresolve).2.2⟩

end Typelib
