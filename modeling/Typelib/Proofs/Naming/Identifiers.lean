import Typelib.Proofs.Naming.Assignment
import Typelib.Proofs.Naming.Stems
import Typelib.Wrapper.Declare

/-!
# The names of a wrapper are identifiers

Identifiers joined by an underscore are an identifier again (`IsIdentifier.joined`), and all the
endings and beginnings by which names are told apart are put on in this way.  So whatever a library
declares, the names made of it are identifiers: the assigned ones (`identOf_isIdentifier`,
`vtableOf_isIdentifier`), the reserved ones (`freeName_isIdentifier`) and those of slots and
parameters.
-/

namespace Typelib

/-! ## Joining identifiers -/

/-- A keyword has no digit and no underscore. -/
theorem not_mem_keywords {text : String} {c : Char} (hc : c ∈ text.toList)
    (hmark : c.isDigit || c = '_') : text ∉ keywords := by
  have hwords : ∀ keyword ∈ keywords, keyword.toList.all fun c => !(c.isDigit || c = '_') := by
    decide
  intro hmem
  have hletter := List.all_eq_true.mp (hwords text hmem) c hc
  rw [hmark] at hletter
  cases hletter

/-- The digits of a number may stand in an identifier. -/
theorem isIdentifierChar_of_mem_toString {n : Nat} {c : Char} (h : c ∈ (toString n).toList) :
    isIdentifierChar c := by
  rw [Text.toList_toString] at h
  have hdigit : c.isDigit := Nat.isDigit_of_mem_toDigits (by decide) (by decide) h
  simp [isIdentifierChar, isLetterOrDigit, Char.isAlphanum, hdigit]

namespace IsIdentifier

instance : DecidablePred IsIdentifier := fun text =>
  decidable_of_iff (text.toList.all isIdentifierChar ∧
      text.toList.head?.any (fun c => !c.isDigit) ∧ text ∉ keywords) <| by
    have hstart : text.toList.head?.any (fun c => !c.isDigit) ↔
        ∃ c rest, text.toList = c :: rest ∧ c.isDigit = false := by
      cases text.toList <;> simp
    rw [hstart, List.all_eq_true]
    exact ⟨fun ⟨chars, start, notKeyword⟩ => ⟨chars, start, notKeyword⟩,
      fun h => ⟨h.chars, h.start, h.notKeyword⟩⟩

variable {first second : String}

/-- What follows an identifier keeps it one if its characters do and it is no keyword then. -/
theorem append (h : IsIdentifier first) (hchars : ∀ c ∈ second.toList, isIdentifierChar c)
    (hkeyword : first ++ second ∉ keywords) : IsIdentifier (first ++ second) := by
  obtain ⟨c, rest, hlist, hdigit⟩ := h.start
  refine ⟨fun d hd => ?_, ⟨c, rest ++ second.toList, by simp [hlist], hdigit⟩, hkeyword⟩
  rw [String.toList_append] at hd
  rcases List.mem_append.mp hd with hd | hd
  · exact h.chars d hd
  · exact hchars d hd

/-- An identifier and what may stand in one, with an underscore between them. -/
theorem joined (h : IsIdentifier first) (hchars : ∀ c ∈ second.toList, isIdentifierChar c) :
    IsIdentifier (first ++ "_" ++ second) := by
  have hunderscore : '_' ∈ (first ++ "_" ++ second).toList := by simp
  rw [String.append_assoc] at hunderscore ⊢
  refine h.append (fun c hc => ?_) (not_mem_keywords hunderscore (by decide))
  rw [String.toList_append] at hc
  rcases List.mem_append.mp hc with hc | hc
  · rw [List.mem_singleton.mp hc]
    decide
  · exact hchars c hc

theorem numbered (h : IsIdentifier first) (n : Nat) : IsIdentifier (numbered first n) :=
  h.joined fun _ hc => isIdentifierChar_of_mem_toString hc

end IsIdentifier

/-- The name of a method structure is made of an identifier. -/
theorem vtable_isIdentifier {ident : String} (h : IsIdentifier ident) :
    IsIdentifier (ident ++ "_Vtbl") := by
  have hsplit : ident ++ "_Vtbl" = ident ++ "_" ++ "Vtbl" := by
    rw [String.append_assoc]
    rfl
  rw [hsplit]
  exact h.joined (List.all_eq_true.mp (by decide))

variable {taken : List String} {preferred owner : String}

theorem nextFree_isIdentifier (h : IsIdentifier preferred) :
    IsIdentifier (nextFree taken preferred) := by
  rcases nextFree_eq_or_numbered taken preferred with heq | ⟨n, heq⟩
  · rwa [heq]
  · rw [heq]
    exact h.numbered n

theorem freeName_isIdentifier (h : IsIdentifier preferred) (howner : IsIdentifier owner) :
    IsIdentifier (freeName taken preferred owner) := by
  unfold freeName
  split
  · exact nextFree_isIdentifier (howner.joined h.chars)
  · exact h

/-! ## Methods -/

theorem slotName_isIdentifier (m : Method) : IsIdentifier m.slotName := by
  have hname := identifier_isIdentifier m.name
  have hbehind (word : String) (hword : IsIdentifier word) :
      IsIdentifier (word ++ "_" ++ identifier m.name) := hword.joined hname.chars
  unfold Method.slotName
  cases m.kind with
  | func => exact hname
  | propGet => exact hbehind "get" (by decide)
  | propPut => exact hbehind "put" (by decide)
  | propPutRef => exact hbehind "putref" (by decide)

theorem slotNames_isIdentifier {seen : List String} {methods : List Method} {name : String}
    (h : name ∈ slotNames seen methods) : IsIdentifier name := by
  induction methods generalizing seen with
  | nil => cases h
  | cons m rest ih =>
    rcases List.mem_cons.mp h with rfl | h
    · exact nextFree_isIdentifier (slotName_isIdentifier m)
    · exact ih h

theorem arg_isIdentifier (index : Nat) : IsIdentifier ("arg" ++ toString index) := by
  have harg : IsIdentifier "arg" := by decide
  obtain ⟨c, hc⟩ := List.exists_mem_of_ne_nil _ (Nat.toDigits_ne_nil (n := index) (b := 10))
  have hdigit : c.isDigit := Nat.isDigit_of_mem_toDigits (by decide) (by decide) hc
  rw [← Text.toList_toString] at hc
  refine harg.append (fun _ hd => isIdentifierChar_of_mem_toString hd) ?_
  refine not_mem_keywords (c := c) ?_ (by simp [hdigit])
  rw [String.toList_append]
  exact List.mem_append_right _ hc

theorem paramName_isIdentifier (index : Nat) (declared : String) :
    IsIdentifier (paramName index declared) := by
  simp only [paramName]
  split
  · exact arg_isIdentifier index
  · split
    · decide
    · exact identifier_isIdentifier declared

/-! ## Assigned names -/

namespace LocalNames

/-- Whether all assigned names are identifiers. -/
structure AreIdentifiers (names : LocalNames) : Prop where
  idents : ∀ {declared ident}, names.idents.get? declared = some ident → IsIdentifier ident
  vtables : ∀ {declared ident}, names.vtables.get? declared = some ident → IsIdentifier ident

variable {names : LocalNames}

theorem AreIdentifiers.start (known : Symbols) : (start known).AreIdentifiers :=
  ⟨fun h => absurd h (by simp [LocalNames.start]), fun h => absurd h (by simp [LocalNames.start])⟩

theorem AreIdentifiers.identOf (h : names.AreIdentifiers) (declared : String) :
    IsIdentifier (names.identOf declared) := by
  unfold LocalNames.identOf
  cases hident : names.idents.get? declared with
  | none => exact identifier_isIdentifier declared
  | some ident => exact h.idents hident

theorem AreIdentifiers.vtableOf (h : names.AreIdentifiers) (declared : String) :
    IsIdentifier (names.vtableOf declared) := by
  unfold LocalNames.vtableOf
  cases hvtable : names.vtables.get? declared with
  | none => exact vtable_isIdentifier (h.identOf declared)
  | some vtable => exact h.vtables hvtable

/-- A claim adds identifiers. -/
theorem AreIdentifiers.claim (h : names.AreIdentifiers) (known : Symbols) (item : Item) :
    (claim known names item).AreIdentifiers := by
  by_cases hknown : known.contains item.name
  · rwa [claim_known hknown]
  · have hnovel : known.contains item.name = false := by simpa using hknown
    have hident : IsIdentifier (nextFree names.taken (identifier item.name)) :=
      nextFree_isIdentifier (identifier_isIdentifier item.name)
    constructor
    · intro declared ident hget
      rw [idents_claim hnovel, Table.get?_insert] at hget
      split at hget
      · cases hget
        exact hident
      · exact h.idents hget
    · intro declared ident hget
      rw [vtables_claim hnovel] at hget
      split at hget
      · rw [Table.get?_insert] at hget
        split at hget
        · cases hget
          rw [identOf_claim names hnovel]
          exact nextFree_isIdentifier (vtable_isIdentifier hident)
        · exact h.vtables hget
      · exact h.vtables hget

theorem areIdentifiers_assign (items : Items) (known : Symbols) :
    (assign items known).AreIdentifiers := by
  have hfold (some : List Item) {names : LocalNames} (h : names.AreIdentifiers) :
      (some.foldl (claim known) names).AreIdentifiers := by
    induction some generalizing names with
    | nil => exact h
    | cons item rest ih => exact ih (h.claim known item)
  exact hfold items.values (.start known)

end LocalNames

end Typelib
