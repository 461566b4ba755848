import Typelib.Proofs.Naming.Identifiers
import Typelib.Proofs.Wrapper.References

/-!
# Names that a wrapper takes from outside

A wrapper writes the names of primitive types and, in its imports, the names of other packages.  A
type that it declares under such a name takes its place.  The names that the generator makes up
itself have an ending (`IsMarked`), which these have not; so one of them is declared exactly when
an item has it as its identifier, or a name that nothing declares is spelled like it, and it is no
known symbol (`Wrapper.mem_typeNames_iff`).  Nothing keeps items from having such names
(`Wrapper.shadowing_captures`).
-/

namespace Typelib

/-! ## Endings -/

/-- The names that are made of another one by an ending: those of method structures and of coclass
aliases, and those with numbers. -/
inductive IsMarked : String → Prop
  | vtable (ident : String) : IsMarked (ident ++ "_Vtbl")
  | chosen (ident : String) {ending : String} (h : ending ∈ ["Default", "Source"]) :
      IsMarked (ident ++ "_" ++ ending)
  | numbered (preferred : String) (n : Nat) : IsMarked (numbered preferred n)

/-- The names of the primitive types. -/
def primitiveNames : List String :=
  ["i8", "i16", "i32", "i64", "u8", "u16", "u32", "u64", "f32", "f64", "str"]

/-- The first name in the path of a module. -/
def rootOf (owner : String) : String := String.ofList (owner.toList.takeWhile (· ≠ ':'))

namespace IsMarked

variable {name : String}

theorem underscore (h : IsMarked name) : '_' ∈ name.toList := by
  cases h with
  | vtable ident => simp [String.toList_append]
  | chosen ident _ => simp [String.toList_append]
  | numbered preferred n => simp [Typelib.numbered, String.toList_append]

/-- The ending of a name: a word, or a number. -/
theorem ending (h : IsMarked name) :
    (∃ word ∈ ["_Vtbl", "_Default", "_Source"], word.toList <:+ name.toList) ∨
      name.toList.getLast?.any Char.isDigit := by
  cases h with
  | vtable ident =>
    refine .inl ⟨"_Vtbl", List.mem_cons_self, ?_⟩
    rw [String.toList_append]
    exact List.suffix_append _ _
  | chosen ident hending =>
    left
    simp only [List.mem_cons, List.not_mem_nil, or_false] at hending
    rcases hending with rfl | rfl
    · refine ⟨"_Default", by simp, ident.toList, ?_⟩
      simp [String.toList_append]
    · refine ⟨"_Source", by simp, ident.toList, ?_⟩
      simp [String.toList_append]
  | numbered preferred n =>
    right
    have hne : Nat.toDigits 10 n ≠ [] := Nat.toDigits_ne_nil
    rw [Typelib.numbered, String.toList_append, Text.toList_toString, List.getLast?_append,
      List.getLast?_eq_some_getLast hne]
    exact Nat.isDigit_of_mem_toDigits (by decide) (by decide) (List.getLast_mem hne)

theorem not_of_primitive (h : name ∈ primitiveNames) : ¬IsMarked name := by
  have hplain : ∀ name ∈ primitiveNames, '_' ∉ name.toList := by decide
  exact fun hmarked => hplain name h hmarked.underscore

end IsMarked

theorem nextFree_eq_or_isMarked (taken : List String) (preferred : String) :
    nextFree taken preferred = preferred ∨ IsMarked (nextFree taken preferred) := by
  rcases nextFree_eq_or_numbered taken preferred with heq | ⟨n, heq⟩
  · exact .inl heq
  · rw [heq]
    exact .inr (.numbered preferred n)

theorem nextFree_isMarked {preferred : String} (h : IsMarked preferred) (taken : List String) :
    IsMarked (nextFree taken preferred) := by
  rcases nextFree_eq_or_isMarked taken preferred with heq | hmarked
  · rwa [heq]
  · exact hmarked

/-- The name of a coclass alias has an ending, whatever it is put behind. -/
theorem freeName_isMarked {ending : String} (h : ending ∈ ["Default", "Source"])
    (taken : List String) (ident owner : String) :
    IsMarked (freeName taken (ident ++ "_" ++ ending) owner) := by
  unfold freeName
  split
  · refine nextFree_isMarked ?_ taken
    have hassoc : owner ++ "_" ++ (ident ++ "_" ++ ending) =
        owner ++ "_" ++ ident ++ "_" ++ ending := by
      simp only [String.append_assoc]
    rw [hassoc]
    exact .chosen _ h
  · exact .chosen ident h

variable {items : Items} {known : Symbols} {item : Item} {name : String}

/-- A name of an item without an ending is the identifier made of its name. -/
theorem LocalNames.eq_identifier_of_mem_namesOf (named : items.AreNamed)
    (hitem : item ∈ items.novel known) (h : name ∈ (assign items known).namesOf item)
    (hunmarked : ¬IsMarked name) : name = identifier item.name := by
  rcases mem_namesOf.mp h with rfl | ⟨hinterface, rfl⟩
  · rw [identOf_assign named hitem] at hunmarked ⊢
    exact (nextFree_eq_or_isMarked _ _).resolve_right hunmarked
  · rw [vtableOf_assign named hitem hinterface] at hunmarked
    exact absurd (nextFree_isMarked (.vtable _) _) hunmarked

/-- An alias has the identifier of its item or an ending. -/
theorem Scope.Emits.alias {scope : Scope} {target : TypeExpr}
    (h : scope.Emits item (.typeAlias name target)) :
    name = scope.names.identOf item.name ∨ IsMarked name := by
  cases h with
  | coClassChosen taken hending => exact .inr (freeName_isMarked hending taken _ _)
  | enumerationAlias => exact .inl rfl
  | typeAlias => exact .inl rfl

namespace Wrapper

/-- The names that a wrapper takes from outside: those of the primitive types, and the first names
in the paths of its imports. -/
def reliedNames (w : Wrapper) : List String :=
  primitiveNames ++ w.imports.map fun i => rootOf i.owner

variable {library : Identity} {source : Option Path}

/-- A name without an ending is declared exactly when an item has the identifier or a name that
nothing declares is spelled like it, and it is no known symbol. -/
theorem mem_typeNames_iff (named : items.AreNamed) (hunmarked : ¬IsMarked name) :
    name ∈ (ofItems library items known source).typeNames ↔
      known.contains name = false ∧
        ((∃ item ∈ items.novel known, identifier item.name = name) ∨
          .missing name ∈ (ofItems library items known source).writtenNames) := by
  constructor
  · intro h
    refine ⟨not_known_of_mem_typeNames named h, ?_⟩
    have hitem {item : Item} (hitem : item ∈ items.novel known)
        (hname : name ∈ (LocalNames.assign items known).namesOf item) :
        ∃ item ∈ items.novel known, identifier item.name = name :=
      ⟨item, hitem, (LocalNames.eq_identifier_of_mem_namesOf named hitem hname hunmarked).symm⟩
    rw [typeNames_ofItems] at h
    rcases List.mem_append.mp h with h | h
    · left
      rcases List.mem_append.mp (Scope.sections_subset_assigned h) with h | h
      · obtain ⟨item, hnovel, hname⟩ := Scope.mem_assigned.mp h
        exact hitem hnovel hname
      · obtain ⟨decl, hdecl, heq⟩ := List.mem_filterMap.mp h
        obtain ⟨item, hvalue, before, -, hdecl⟩ := Scope.mem_sections hdecl
        rcases Scope.mem_declare hdecl with ⟨owner, -, rfl⟩ | ⟨hnovel, hemits⟩
        · cases heq
        · cases decl <;> cases heq
          rcases hemits.alias with rfl | hmarked
          · exact hitem (Items.mem_novel.mpr ⟨hvalue, hnovel⟩)
              (LocalNames.identOf_mem_namesOf (LocalNames.assign items known) item)
          · exact absurd hmarked hunmarked
    · rw [writtenNames_ofItems]
      exact .inr (mem_placeholders.mp h).1
  · rintro ⟨hnovel, ⟨item, hitem, rfl⟩ | hmissing⟩
    · -- the item has the identifier itself, or an item before it has
      refine assigned_subset_typeNames (Scope.mem_assigned.mpr ?_)
      by_cases hfree : identifier item.name ∈ (LocalNames.before items known item.name).taken
      · have htaken := LocalNames.before_subset named hitem hfree
        refine ((LocalNames.mem_taken_assign named).mp htaken).resolve_right ?_
        rw [hnovel]
        exact Bool.false_ne_true
      · refine ⟨item, hitem, LocalNames.mem_namesOf.mpr (.inl ?_)⟩
        rw [LocalNames.identOf_assign named hitem, nextFree_of_not_mem hfree]
    · exact missing_mem_typeNames named hmissing hnovel

/-- A name that a wrapper takes from outside, and that has no ending, is declared by it exactly
when it is no known symbol, and an item has the identifier or a name that nothing declares is
spelled like it.  The names of the primitive types have no endings. -/
theorem relied_name_declared_iff {items : Items} (named : items.AreNamed) (library : Identity)
    (known : Symbols) (source : Option Path) :
    let w := ofItems library items known source
    (∀ name ∈ w.reliedNames, ¬IsMarked name →
      (name ∈ w.typeNames ↔
        known.contains name = false ∧
          ((∃ item ∈ items.novel known, identifier item.name = name) ∨
            .missing name ∈ w.writtenNames))) ∧
      ∀ name ∈ primitiveNames, ¬IsMarked name := by
  intro w
  exact ⟨fun name _ hunmarked => mem_typeNames_iff named hunmarked,
    fun name hname => IsMarked.not_of_primitive hname⟩

/-- The paths of the runtime support start with names without endings. -/
theorem standard_roots_not_marked :
    ∀ owner ∈ Symbols.standard.values, ¬IsMarked (rootOf owner) := by
  have hplain : ∀ owner ∈ Symbols.standard.values,
      (∀ word ∈ ["_Vtbl", "_Default", "_Source"], ¬word.toList <:+ (rootOf owner).toList) ∧
        (rootOf owner).toList.getLast?.any Char.isDigit = false := by
    decide
  intro owner howner hmarked
  obtain ⟨hwords, hdigit⟩ := hplain owner howner
  rcases hmarked.ending with ⟨word, hword, hsuffix⟩ | hends
  · exact hwords word hword hsuffix
  · rw [hdigit] at hends
    cases hends

theorem relied_names_crowded :
    let w := ofItems ⟨⟨10#128⟩, 1, 0, 0⟩ crowded .standard none
    w.reliedNames = primitiveNames ++ ["core", "tlbgen_runtime"] ∧
      ∀ name ∈ w.reliedNames, name ∉ w.typeNames := by
  intro w
  obtain ⟨hrelied, hprimitive⟩ :=
    relied_name_declared_iff crowded_areNamed ⟨⟨10#128⟩, 1, 0, 0⟩ .standard none
  have hnames : w.reliedNames = primitiveNames ++ ["core", "tlbgen_runtime"] := by decide
  have hroots : ∀ name ∈ ["core", "tlbgen_runtime"], ∃ owner ∈ Symbols.standard.values,
      rootOf owner = name := by decide
  refine ⟨hnames, fun name hname hdeclared => ?_⟩
  have hunmarked : ¬IsMarked name := by
    rw [hnames] at hname
    rcases List.mem_append.mp hname with hname | hname
    · exact hprimitive name hname
    · obtain ⟨owner, howner, rfl⟩ := hroots name hname
      exact standard_roots_not_marked owner howner
  have hfree : ∀ name ∈ w.reliedNames,
      (∀ item ∈ crowded.novel .standard, identifier item.name ≠ name) ∧
        .missing name ∉ w.writtenNames := by decide
  obtain ⟨hitems, hmissing⟩ := hfree name hname
  rcases ((hrelied name hname hunmarked).mp hdeclared).2 with ⟨item, hitem, heq⟩ | hwritten
  · exact hitems item hitem heq
  · exact hmissing hwritten

/-- A structure with the name of a primitive type and an alias with that of a package, and aliases
that rely on the two names. -/
def shadowing : Items :=
  Table.ofList
    [("i32", .struct "i32" []), ("Count", .typeAlias "Count" (.builtin .i4)),
      ("core", .typeAlias "core" (.builtin .i4)),
      ("Handle", .typeAlias "Handle" (.pointer (.builtin .void)))]

/-- The alias of the primitive type is one of the structure, and the import starts at an alias. -/
theorem shadowing_captures :
    let w := ofItems ⟨⟨10#128⟩, 1, 0, 0⟩ shadowing .standard none
    shadowing.AreNamed ∧ .typeAlias "Count" (.primitive .i32) ∈ w.declarations ∧
      w.imports = [⟨"core::ffi", ["c_void"]⟩] ∧ "i32" ∈ w.typeNames ∧ "core" ∈ w.typeNames ∧
      ¬∀ name ∈ w.reliedNames, name ∉ w.typeNames := by
  unfold Items.AreNamed
  decide

end Wrapper

end Typelib
