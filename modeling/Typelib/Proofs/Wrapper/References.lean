import Typelib.Proofs.Wrapper.Definitions

/-!
# The names that a wrapper relies on

A bare name in a type is a known symbol, the name of an item, or one that nothing declares
(`Scope.Means`).  A known symbol is imported, and an item declares its name.  A name that nothing
declares gets a placeholder unless an identifier, a known symbol or an alias is spelled like it, so
it is in scope except in one case (`Wrapper.bare_name_iff`): it is spelled like a known symbol, and
no type asks for that symbol itself.
-/

namespace Typelib

namespace Scope

variable {own : Identity} {items : Items} {known : Symbols} {item : Item}

/-- What a bare name stands for. -/
def Means (scope : Scope) : NameRef → Prop
  | .symbol name => scope.known.contains name
  | .item ident => ident ∈ scope.items.values.flatMap scope.assigned
  | .missing _ => True

theorem mem_assigned {name : String} :
    name ∈ items.values.flatMap (Scope.of own items known).assigned ↔
      ∃ item ∈ items.novel known, name ∈ (LocalNames.assign items known).namesOf item := by
  rw [flatMap_assigned]
  exact List.mem_flatMap

theorem refer_means (own : Identity) (items : Items) (known : Symbols) (name : String) :
    (Scope.of own items known).Means ((Scope.of own items known).refer name) := by
  unfold refer
  split
  · assumption
  · split
    · rename_i ident hident
      replace hident : (LocalNames.assign items known).idents.get? name = some ident := hident
      have hcontains := Option.isSome_iff_exists.mpr ⟨ident, hident⟩
      obtain ⟨item, hitem, rfl⟩ := LocalNames.contains_ident_assign.mp hcontains
      refine mem_assigned.mpr ⟨item, hitem, LocalNames.mem_namesOf.mpr (.inl ?_)⟩
      rw [LocalNames.identOf, hident, Option.getD_some]
    · trivial

theorem vtableRef_means (own : Identity) (items : Items) (known : Symbols) (name : String) :
    (Scope.of own items known).Means ((Scope.of own items known).vtableRef name) := by
  simp only [vtableRef]
  split
  · assumption
  · split
    · rename_i ident hident
      replace hident : (LocalNames.assign items known).vtables.get? name = some ident := hident
      have hcontains := Option.isSome_iff_exists.mpr ⟨ident, hident⟩
      obtain ⟨item, hitem, rfl, hinterface⟩ := LocalNames.contains_vtable_assign.mp hcontains
      refine mem_assigned.mpr ⟨item, hitem, LocalNames.mem_namesOf.mpr (.inr ⟨hinterface, ?_⟩)⟩
      rw [LocalNames.vtableOf, hident, Option.getD_some]
    · split
      · exact refer_means own items known _
      · exact refer_means own items known _
      · trivial

/-- Every bare name in a type of an item stands for something. -/
theorem Writes.means {type : TypeExpr} (h : (Scope.of own items known).Writes item type) :
    ∀ ref ∈ type.names, (Scope.of own items known).Means ref :=
  h.forall_names (refer_means own items known) (vtableRef_means own items known)

end Scope

namespace Declaration

/-- The item whose own declarations go on in a declaration. -/
def owner? : Declaration → Option String
  | member _ owner _ | memberNumbers owner _ | labels owner _ => some owner
  | _ => none

/-- The names that a declaration defines as types; a module of constants is none. -/
def definedTypes : Declaration → List String
  | constants .. => []
  | d => d.typeNames

end Declaration

/-- Whether an item is a module of constants. -/
def Item.isConstants : Item → Bool
  | constants .. => true
  | _ => false

namespace Wrapper

/-- The bare names in the types of a wrapper. -/
def writtenNames (w : Wrapper) : List NameRef := w.declarations.flatMap Declaration.names

/-- The names that a wrapper defines as types. -/
def definedTypes (w : Wrapper) : List String := w.declarations.flatMap Declaration.definedTypes

section

variable {library : Identity} {items : Items} {known : Symbols} {source : Option Path}

theorem mem_declarations_ofItems {decl : Declaration} :
    decl ∈ (ofItems library items known source).declarations ↔
      decl ∈ (itemSections library items known).flatten ∨
        ∃ ident ∈ placeholders (Scope.of library items known) (itemSections library items known),
          decl ∈ placeholder ident := by
  simp only [declarations, ofItems, List.flatten_append, List.mem_append, itemSections,
    List.mem_flatten, List.mem_map, exists_exists_and_eq_and]

/-- The declarations of a wrapper are comments, those of its items and placeholders. -/
theorem declarations_cases {decl : Declaration}
    (h : decl ∈ (ofItems library items known source).declarations) :
    (∃ isDoc text, decl = .comment isDoc text) ∨
      (∃ item ∈ items.novel known, (Scope.of library items known).Emits item decl) ∨
      ∃ ident, decl = .hollow ident := by
  rcases mem_declarations_ofItems.mp h with h | ⟨ident, -, h⟩
  · obtain ⟨item, hitem, before, -, hdecl⟩ := Scope.mem_sections h
    rcases Scope.mem_declare hdecl with ⟨owner, -, rfl⟩ | ⟨hnovel, hemits⟩
    · exact .inl ⟨_, _, rfl⟩
    · exact .inr (.inl ⟨item, Items.mem_novel.mpr ⟨hitem, hnovel⟩, hemits⟩)
  · simp only [placeholder, List.mem_cons, List.not_mem_nil, or_false] at h
    rcases h with rfl | rfl
    · exact .inl ⟨_, _, rfl⟩
    · exact .inr (.inr ⟨ident, rfl⟩)

/-- Placeholders write no types. -/
theorem writtenNames_ofItems :
    (ofItems library items known source).writtenNames =
      namesOf (itemSections library items known) := by
  have hplaceholder (ident : String) : (placeholder ident).flatMap Declaration.names = [] := rfl
  rw [writtenNames, flatMap_declarations_ofItems]
  simp [hplaceholder, namesOf]

theorem mem_importedNames {name : String} :
    name ∈ (ofItems library items known source).importedNames ↔
      .symbol name ∈ (ofItems library items known source).writtenNames ∧ known.contains name := by
  rw [importedNames_ofItems, Symbols.mem_imports, NameRef.mem_symbols, writtenNames_ofItems]

theorem writtenNames_means {ref : NameRef}
    (h : ref ∈ (ofItems library items known source).writtenNames) :
    (Scope.of library items known).Means ref := by
  obtain ⟨decl, hdecl, href⟩ := List.mem_flatMap.mp h
  obtain ⟨type, htype, href⟩ := List.mem_flatMap.mp href
  rcases declarations_cases hdecl with ⟨isDoc, text, rfl⟩ | ⟨item, -, hemits⟩ | ⟨ident, rfl⟩
  · cases htype
  · exact (hemits.writes htype).means ref href
  · cases htype

/-- An item declares its names. -/
theorem assigned_subset_typeNames :
    items.values.flatMap (Scope.of library items known).assigned ⊆
      (ofItems library items known source).typeNames := by
  rw [typeNames_ofItems]
  exact fun name hname => List.mem_append_left _ (Scope.assigned_subset_sections hname)

/-- A name that nothing declares is given a placeholder, or is declared or known after all. -/
theorem missing_mem_typeNames (named : items.AreNamed) {ident : String}
    (h : .missing ident ∈ (ofItems library items known source).writtenNames)
    (hnovel : known.contains ident = false) :
    ident ∈ (ofItems library items known source).typeNames := by
  by_cases htaken : ident ∈ (LocalNames.assign items known).taken
  · -- the identifier of an item is spelled like it
    rcases (LocalNames.mem_taken_assign named).mp htaken with hassigned | hknown
    · exact assigned_subset_typeNames (Scope.mem_assigned.mpr hassigned)
    · rw [hnovel] at hknown
      cases hknown
  · rw [typeNames_ofItems]
    by_cases halias : ident ∈
        (itemSections library items known).flatten.filterMap Declaration.aliasName?
    · refine List.mem_append_left _ ?_
      obtain ⟨decl, hdecl, heq⟩ := List.mem_filterMap.mp halias
      cases decl <;> cases heq
      exact List.mem_flatMap.mpr ⟨_, hdecl, List.mem_cons_self⟩
    · rw [writtenNames_ofItems] at h
      exact List.mem_append_right _ (mem_placeholders.mpr ⟨h, htaken, halias⟩)

/-- The modules of constants are those of the items. -/
theorem constants_mem_declarations_iff {ident : String} :
    (∃ values, .constants ident values ∈ (ofItems library items known source).declarations) ↔
      ∃ item ∈ items.novel known, item.isConstants ∧
        (LocalNames.assign items known).identOf item.name = ident := by
  constructor
  · rintro ⟨values, h⟩
    rcases declarations_cases h with ⟨isDoc, text, heq⟩ | ⟨item, hitem, hemits⟩ | ⟨other, heq⟩
    · cases heq
    · cases hemits with
      | constants => exact ⟨_, hitem, rfl, rfl⟩
    · cases heq
  · rintro ⟨item, hitem, hconstants, rfl⟩
    obtain ⟨hvalue, hnovel⟩ := Items.mem_novel.mp hitem
    obtain ⟨before, -, hsection⟩ := Scope.exists_section hvalue
      (Scope.of library items known).names.taken
    cases item <;> simp only [Item.isConstants, Bool.false_eq_true] at hconstants
    rename_i name values
    rw [Scope.declare_novel (.of library items known) hnovel] at hsection
    exact ⟨_, mem_declarations_ofItems.mpr (.inl (hsection List.mem_cons_self))⟩

/-- Two declarations do not declare one name among the types. -/
theorem eq_of_mem_typeNames (named : items.AreNamed) {first second : Declaration} {name : String}
    (hfirst : first ∈ (ofItems library items known source).declarations)
    (hsecond : second ∈ (ofItems library items known source).declarations)
    (hname : name ∈ first.typeNames) (hname' : name ∈ second.typeNames) : first = second :=
  eq_of_mem_of_nodup_flatMap (nodup_typeNames named) hfirst hsecond hname hname'

/-- The types that a wrapper defines are its names among the types that are no modules of
constants. -/
theorem mem_definedTypes_iff (named : items.AreNamed) {name : String} :
    name ∈ (ofItems library items known source).definedTypes ↔
      name ∈ (ofItems library items known source).typeNames ∧
        ∀ item ∈ items.novel known, item.isConstants →
          (LocalNames.assign items known).identOf item.name ≠ name := by
  constructor
  · intro h
    obtain ⟨decl, hdecl, hname⟩ := List.mem_flatMap.mp h
    have htype : name ∈ decl.typeNames := by
      cases decl <;> first | exact hname | cases hname
    refine ⟨List.mem_flatMap.mpr ⟨decl, hdecl, htype⟩, fun item hitem hconstants heq => ?_⟩
    obtain ⟨values, hmodule⟩ := constants_mem_declarations_iff.mpr ⟨item, hitem, hconstants, heq⟩
    have hsame := eq_of_mem_typeNames named hdecl hmodule htype List.mem_cons_self
    rw [hsame] at hname
    cases hname
  · rintro ⟨h, hmodules⟩
    obtain ⟨decl, hdecl, hname⟩ := List.mem_flatMap.mp h
    refine List.mem_flatMap.mpr ⟨decl, hdecl, ?_⟩
    cases decl with
    | constants ident values =>
      obtain ⟨item, hitem, hconstants, heq⟩ := constants_mem_declarations_iff.mp ⟨values, hdecl⟩
      exact absurd (heq.trans (List.mem_singleton.mp hname).symm) (hmodules item hitem hconstants)
    | _ => exact hname

theorem bare_name_declared_iff (named : items.AreNamed) {ref : NameRef}
    (href : ref ∈ (ofItems library items known source).writtenNames) :
    (ref.ident ∈ (ofItems library items known source).typeNames ∨
        ref.ident ∈ (ofItems library items known source).importedNames) ↔
      (known.contains ref.ident →
        .symbol ref.ident ∈ (ofItems library items known source).writtenNames) := by
  constructor
  · rintro (hdeclared | himported) hknown
    · rw [not_known_of_mem_typeNames named hdeclared] at hknown
      cases hknown
    · exact (mem_importedNames.mp himported).1
  · intro hasked
    by_cases hknown : known.contains ref.ident
    · exact .inr (mem_importedNames.mpr ⟨hasked hknown, hknown⟩)
    · left
      have hmeans := writtenNames_means href
      cases ref with
      | symbol name => exact absurd hmeans hknown
      | item ident => exact assigned_subset_typeNames hmeans
      | missing ident => exact missing_mem_typeNames named href (by simpa using hknown)

/-- What a declaration goes on from is a type of the wrapper. -/
theorem owner_defined (named : items.AreNamed) {decl : Declaration} {owner : String}
    (hdecl : decl ∈ (ofItems library items known source).declarations)
    (howner : decl.owner? = some owner) :
    owner ∈ (ofItems library items known source).definedTypes := by
  rcases declarations_cases hdecl with ⟨isDoc, text, rfl⟩ | ⟨item, hitem, hemits⟩ | ⟨ident, rfl⟩
  · cases howner
  · have hitem' : item.isConstants = false ∧
        owner = (LocalNames.assign items known).identOf item.name := by
      cases hemits <;> cases howner <;> exact ⟨rfl, rfl⟩
    obtain ⟨hnotConstants, rfl⟩ := hitem'
    have hname := LocalNames.identOf_mem_namesOf (LocalNames.assign items known) item
    have hassigned : (LocalNames.assign items known).identOf item.name ∈
        items.values.flatMap (Scope.of library items known).assigned :=
      Scope.mem_assigned.mpr ⟨item, hitem, hname⟩
    refine (mem_definedTypes_iff named).mpr ⟨assigned_subset_typeNames hassigned, ?_⟩
    intro other hother hconstants heq
    have hname' := LocalNames.identOf_mem_namesOf (LocalNames.assign items known) other
    rw [heq] at hname'
    rw [LocalNames.eq_of_mem_namesOf named hitem hother hname hname', hconstants] at hnotConstants
    cases hnotConstants
  · cases howner

end

/-- Every bare name in a type of a wrapper is declared or imported, unless it is spelled like a
known symbol and no type asks for that symbol; it is a type as well unless it is the name of a
module of constants.  The owners of constants and of implementations are types of the wrapper. -/
theorem bare_name_iff {items : Items} (named : items.AreNamed) (library : Identity)
    (known : Symbols) (source : Option Path) :
    let w := ofItems library items known source
    (∀ ref ∈ w.writtenNames,
      ((ref.ident ∈ w.typeNames ∨ ref.ident ∈ w.importedNames) ↔
        (known.contains ref.ident → .symbol ref.ident ∈ w.writtenNames)) ∧
      ((ref.ident ∈ w.definedTypes ∨ ref.ident ∈ w.importedNames) ↔
        (known.contains ref.ident → .symbol ref.ident ∈ w.writtenNames) ∧
          ∀ item ∈ items.novel known, item.isConstants →
            (LocalNames.assign items known).identOf item.name ≠ ref.ident)) ∧
      ∀ owner ∈ w.declarations.filterMap Declaration.owner?, owner ∈ w.definedTypes := by
  intro w
  refine ⟨fun ref href => ⟨bare_name_declared_iff named href, ?_⟩, fun owner howner => ?_⟩
  · have himported : ref.ident ∈ w.importedNames → ∀ item ∈ items.novel known,
        (LocalNames.assign items known).identOf item.name ≠ ref.ident := by
      intro himported item hitem heq
      have hknown := (mem_importedNames.mp himported).2
      rw [← heq, LocalNames.not_known_of_mem_namesOf named hitem
        (LocalNames.identOf_mem_namesOf _ item)] at hknown
      cases hknown
    rw [← bare_name_declared_iff named href, mem_definedTypes_iff named]
    constructor
    · rintro (⟨hdeclared, hmodules⟩ | h)
      · exact ⟨.inl hdeclared, hmodules⟩
      · exact ⟨.inr h, fun item hitem _ => himported h item hitem⟩
    · rintro ⟨hdeclared | h, hmodules⟩
      · exact .inl ⟨hdeclared, hmodules⟩
      · exact .inr h
  · obtain ⟨decl, hdecl, heq⟩ := List.mem_filterMap.mp howner
    exact owner_defined named hdecl heq

/-- The items above use no name that is spelled like a known symbol without being one. -/
theorem bare_name_crowded :
    let w := ofItems ⟨⟨10#128⟩, 1, 0, 0⟩ crowded .standard none
    ∀ ref ∈ w.writtenNames, ref.ident ∈ w.definedTypes ∨ ref.ident ∈ w.importedNames := by
  intro w ref href
  have hasked : ∀ ref ∈ w.writtenNames,
      (Symbols.standard.contains ref.ident → NameRef.symbol ref.ident ∈ w.writtenNames) ∧
        ∀ item ∈ crowded.novel .standard, item.isConstants →
          (LocalNames.assign crowded .standard).identOf item.name ≠ ref.ident := by
    decide
  exact (((bare_name_iff crowded_areNamed ⟨⟨10#128⟩, 1, 0, 0⟩ .standard none).1 ref href).2).mpr
    (hasked ref href)

/-- An alias of a name that is no known symbol, but is spelled like one in generated sources. -/
def misspelled : Items := Table.ofList [("X", .typeAlias "X" (.named "c void"))]

/-- The name is neither declared, since it is taken, nor imported, since nothing asks for it. -/
theorem misspelled_not_in_scope :
    let w := ofItems ⟨⟨10#128⟩, 1, 0, 0⟩ misspelled .standard none
    misspelled.AreNamed ∧
      w.declarations = [.typeAlias "X" (.name (.missing "c_void"))] ∧ w.imports = [] ∧
      ¬∀ ref ∈ w.writtenNames, ref.ident ∈ w.typeNames ∨ ref.ident ∈ w.importedNames := by
  unfold Items.AreNamed
  decide

end Wrapper

end Typelib
