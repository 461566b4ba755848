import Typelib.Generator.World
import Typelib.Proofs.Guid
import Typelib.Proofs.Registry.Registering

/-!
# The forms of a designator

A registered version of a library can be asked for by a class that was registered for it, by an
object, and by its identifier and version, with the neutral locale or without one.  The version of
a class is a text in decimal and its library is the text of an identifier, which are both read back
(`resolve_coClass`), so all four resolve to one identity.  A request, and the names that are
reported, depend on a designator by what it leads to only (`forms_agree`).
-/

namespace Typelib

universe u

/-! ## Versions in decimal -/

namespace Registry

open Text

/-- The text of a version that a class is registered with. -/
def decimalVersion (major minor : UInt16) : String :=
  toString major.toNat ++ "." ++ toString minor.toNat

theorem toList_decimalVersion (major minor : UInt16) :
    (decimalVersion major minor).toList =
      Nat.toDigits 10 major.toNat ++ '.' :: Nat.toDigits 10 minor.toNat := by
  simp [decimalVersion]

/-- The version of a class is read back. -/
theorem parseVersion?_decimalVersion (major minor : UInt16) :
    parseVersion? 10 (decimalVersion major minor) = some (major, minor) := by
  have hdigit : ∀ d < 10, isBlank (Nat.digitChar d) = false ∧ Nat.digitChar d ≠ '.' := by decide
  have hchars {n : Nat} {c : Char} (h : c ∈ Nat.toDigits 10 n) : isBlank c = false ∧ c ≠ '.' := by
    obtain ⟨d, hd, rfl⟩ := mem_toDigits (by decide) h
    exact hdigit d hd
  have hblank : ∀ c ∈ (decimalVersion major minor).toList, isBlank c = false := by
    rw [toList_decimalVersion, List.forall_mem_append, List.forall_mem_cons]
    exact ⟨fun c hc => (hchars hc).1, by decide, fun c hc => (hchars hc).1⟩
  rw [parseVersion?, trim_eq_self hblank, toList_decimalVersion,
    cut_append fun hdot => (hchars hdot).2 rfl]
  simp only [Option.bind_some, word16?_toDigits (show 1 < 10 by decide) (show 10 ≤ 16 by decide)]

/-! ## Classes -/

/-- What a class was registered for stays, unless it is registered again. -/
theorem classes_after {r : Registry} {clsid : Guid} {calls : List Registration}
    (h : ∀ libid version, Registration.coClass clsid libid version ∉ calls) :
    (r.after calls).classes.get? clsid = r.classes.get? clsid := by
  induction calls using List.reverseRecOn with
  | nil => rfl
  | append_singleton calls call ih =>
    rw [after_append, ← ih fun libid version hmem => h libid version (List.mem_append_left _ hmem)]
    cases call with
    | coClass other libid version =>
      have hne : clsid ≠ other := by
        rintro rfl
        exact h libid version (List.mem_append_right _ List.mem_cons_self)
      simp only [register, withClass, Table.get?_insert, if_neg hne]
    | library i path => rfl

/-- A class leads to the library and the version that it is registered for. -/
theorem resolveClass_of_get? {r : Registry} {clsid libid : Guid} {major minor : UInt16}
    (h : r.classes.get? clsid = some ⟨some libid.braced, some (decimalVersion major minor)⟩) :
    resolveClass r clsid = .ok ⟨libid, major, minor, 0⟩ := by
  simp only [resolveClass, classTypelib, classVersion, h, Option.bind_some, Guid.parse?_braced,
    parseVersion?_decimalVersion]

end Registry

/-! ## Requests -/

section

variable {σ : Type u} {env : Environment σ} {designator other : Designator} {base : Option Path}

theorem Environment.locate_congr {world : σ}
    (h : resolve (env.files world) env.registry base designator =
      resolve (env.files world) env.registry base other) :
    env.locate world designator base = env.locate world other base := by
  rw [locate, h, locate]

/-- A request depends on a designator by what it leads to in the world that the store is opened
in. -/
theorem Generator.request_congr {g : Generator σ}
    (h : env.locate (g.openStore env).2.world designator base =
      env.locate (g.openStore env).2.world other base) :
    g.request env designator base = g.request env other base := by
  simp only [request, serve, h]

theorem Environment.names_congr {world : σ}
    (h : env.locate world designator base = env.locate world other base) :
    env.names world designator base = env.names world other base := by
  rw [names, h, names]

end

/-- The designators of a version that a class was registered for: the class, an object of the
version, and the library in that version without a locale and with the neutral one. -/
def versionForms (clsid libid : Guid) (major minor : UInt16) : List Designator :=
  [.coClass clsid, .object libid major minor, .library libid (some major) (some minor) none,
    .library libid (some major) (some minor) (some 0)]

/-- If a class was registered for a version of a library, and was not registered again since then,
the class and the other designators of that version resolve to one identity in the neutral locale.
So they have the same names, and requests for them have the same outcome. -/
theorem forms_agree (r : Registry) (clsid libid : Guid) (major minor : UInt16)
    (later : List Registration)
    (hlater : ∀ otherLibid version, .coClass clsid otherLibid version ∉ later) :
    let version := toString major.toNat ++ "." ++ toString minor.toNat
    let registry := (r.withClass clsid libid version).after later
    (∀ designator ∈ versionForms clsid libid major minor, ∀ files base,
      resolve files registry base designator =
        .ok ⟨.registered ⟨libid, major, minor, 0⟩, false, none⟩) ∧
    ∀ (σ : Type u) (env : Environment σ), env.registry = registry →
      ∀ designator ∈ versionForms clsid libid major minor,
      ∀ other ∈ versionForms clsid libid major minor,
      (∀ (g : Generator σ) (base : Option Path),
        g.request env designator base = g.request env other base) ∧
      ∀ world base, env.names world designator base = env.names world other base := by
  intro version registry
  have hclass : registry.classes.get? clsid = some ⟨some libid.braced, some version⟩ := by
    rw [Registry.classes_after hlater]
    simp only [Registry.withClass, Table.get?_insert, if_true]
  have hresolve : ∀ designator ∈ versionForms clsid libid major minor, ∀ files base,
      resolve files registry base designator =
        .ok ⟨.registered ⟨libid, major, minor, 0⟩, false, none⟩ := by
    intro designator hform files base
    simp only [versionForms, List.mem_cons, List.not_mem_nil, or_false] at hform
    rcases hform with rfl | rfl | rfl | rfl
    · rw [resolve, Registry.resolveClass_of_get? hclass]
      rfl
    · rfl
    · rfl
    · rfl
  refine ⟨hresolve, fun σ env henv designator hdesignator other hother => ?_⟩
  have hlocate (world : σ) (base : Option Path) :
      env.locate world designator base = env.locate world other base := by
    refine Environment.locate_congr ?_
    rw [henv, hresolve _ hdesignator, hresolve _ hother]
  exact ⟨fun g base => Generator.request_congr (hlocate _ base),
    fun world base => Environment.names_congr (hlocate world base)⟩

/-- A class is registered for version 10.16, the key of which is a.10; the file of that version and
another class of the library are registered later. -/
theorem forms_agree_ten_sixteen :
    let registry := (Registry.empty.withClass ⟨8⟩ ⟨7⟩ "10.16").after
      [.library ⟨⟨7⟩, 10, 16, 0⟩ ⟨"/acme.json"⟩, .coClass ⟨9⟩ ⟨7⟩ "10.9"]
    let forms : List Designator := [.coClass ⟨8⟩, .object ⟨7⟩ 10 16,
      .library ⟨7⟩ (some 10) (some 16) none, .library ⟨7⟩ (some 10) (some 16) (some 0)]
    (∀ designator ∈ forms, ∀ files base, resolve files registry base designator =
      .ok ⟨.registered ⟨⟨7⟩, 10, 16, 0⟩, false, none⟩) ∧
    ∀ (known : Symbols) (g : Generator World), ∀ designator ∈ forms, ∀ other ∈ forms,
      let env := Environment.ofLoader ⟨registry, []⟩ known 0
      g.request env designator none = g.request env other none := by
  intro registry forms
  have hversion :
      toString (10 : UInt16).toNat ++ "." ++ toString (16 : UInt16).toNat = "10.16" := by
    decide
  have hlater : ∀ libid version, Registration.coClass ⟨8⟩ libid version ∉
      [.library ⟨⟨7⟩, 10, 16, 0⟩ ⟨"/acme.json"⟩, .coClass ⟨9⟩ ⟨7⟩ "10.9"] := by
    simp
  have hagree := forms_agree Registry.empty ⟨8⟩ ⟨7⟩ 10 16 _ hlater
  simp only [hversion] at hagree
  exact ⟨hagree.1, fun known g designator hdesignator other hother =>
    (hagree.2 World (Environment.ofLoader ⟨registry, []⟩ known 0) rfl designator hdesignator other
      hother).1 g none⟩

end Typelib
