import Typelib.Proofs.Wrapper.References

/-!
# References to other libraries

A wrapper refers to an item of another library by a path to that library's wrapper, with the
identifier made of the item's name alone; its types have no other paths (`Wrapper.paths_refer`).
The other wrapper gives that identifier to the item only if the name is no known symbol and the
identifier was free when the item's turn came, and it is in these cases that the path leads to the
item (`Wrapper.external_leads_iff`).
-/

namespace Typelib

/-! ## Numbers make names longer -/

theorem length_lt_numbered (preferred : String) (n : Nat) :
    preferred.length < (numbered preferred n).length := by
  have hunderscore : "_".length = 1 := rfl
  simp only [numbered, String.length_append, hunderscore]
  omega

theorem length_le_nextFree (taken : List String) (preferred : String) :
    preferred.length ≤ (nextFree taken preferred).length := by
  rcases nextFree_eq_or_numbered taken preferred with heq | ⟨n, heq⟩
  · rw [heq]
  · rw [heq]
    exact (length_lt_numbered _ _).le

/-- A name that did not become longer was free. -/
theorem nextFree_eq_self_of_length_le {taken : List String} {preferred : String}
    (h : (nextFree taken preferred).length ≤ preferred.length) :
    nextFree taken preferred = preferred := by
  rcases nextFree_eq_or_numbered taken preferred with heq | ⟨n, heq⟩
  · exact heq
  · have hlonger := length_lt_numbered preferred n
    rw [heq] at h
    omega

/-! ## Paths -/

/-- The paths in a type. -/
def TypeExpr.paths : TypeExpr → List TypeExpr
  | sibling stem ident => [sibling stem ident]
  | pointer target => target.paths
  | array element _ => element.paths
  | unit | primitive _ | name _ => []

/-- The names in other libraries that a type asks for, at any depth. -/
def TypeRef.externalNames : TypeRef → List (Identity × String)
  | pointer target => target.externalNames
  | array element _ => element.externalNames
  | safeArray element => element.externalNames
  | external library name => [(library, name)]
  | builtin _ | named _ | unsupported _ => []

namespace Scope

variable (scope : Scope) {item : Item} {path : TypeExpr}

/-- The path by which an item refers to a name in another library, as to a type or, for the base of
an interface, as to its method structure. -/
inductive Refers (item : Item) (library : Identity) (name : String) : TypeExpr → Prop
  | value {type : TypeRef} (htype : type ∈ item.types)
      (hname : (library, name) ∈ type.externalNames) :
      Refers item library name (scope.typeExpr (.external library name))
  | base {ident : String} {iid : Option Guid} {methods : List Method}
      (hitem : item = .interface ident iid (some (.external library name)) methods) :
      Refers item library name (scope.baseVtable (some (.external library name)))

variable {scope}

theorem paths_externalType {library : Identity} {name : String}
    (h : path ∈ (scope.externalType library name).paths) :
    library ≠ scope.own ∧ path = scope.typeExpr (.external library name) := by
  have hpath : scope.typeExpr (.external library name) = scope.externalType library name := rfl
  rw [hpath]
  unfold externalType at h ⊢
  split at h
  · cases h
  · rename_i hne
    rw [if_neg hne]
    exact ⟨hne, List.mem_singleton.mp h⟩

theorem paths_typeExpr {type : TypeRef} (h : path ∈ (scope.typeExpr type).paths) :
    ∃ library name, (library, name) ∈ type.externalNames ∧ library ≠ scope.own ∧
      path = scope.typeExpr (.external library name) := by
  fun_induction Scope.typeExpr with
  | case1 type => cases type <;> cases h
  | case2 => cases h
  | case3 target _ ih => exact ih h
  | case4 element length ih => exact ih h
  | case5 => cases h
  | case6 name => cases h
  | case7 library name => exact ⟨library, name, List.mem_singleton_self _, paths_externalType h⟩
  | case8 => cases h

theorem paths_baseVtable {base : Option TypeRef} (h : path ∈ (scope.baseVtable base).paths) :
    ∃ library name, base = some (.external library name) ∧ library ≠ scope.own ∧
      path = scope.baseVtable base := by
  unfold baseVtable at h ⊢
  split at h
  · cases h
  · cases h
  · rename_i library name
    split at h
    · cases h
    · rename_i hne
      exact ⟨library, name, rfl, hne, by rw [List.mem_singleton.mp h, if_neg hne]⟩
  · cases h

/-- A path in a type that an item writes is one by which the item refers to another library. -/
theorem Writes.refers {type : TypeExpr} (h : scope.Writes item type) (hpath : path ∈ type.paths) :
    ∃ library name, library ≠ scope.own ∧ scope.Refers item library name path := by
  induction h with
  | support hname => cases hpath
  | primitive => cases hpath
  | value htype =>
    obtain ⟨library, name, hname, hne, rfl⟩ := paths_typeExpr hpath
    exact ⟨library, name, hne, .value htype hname⟩
  | base hitem =>
    obtain ⟨library, name, rfl, hne, rfl⟩ := paths_baseVtable hpath
    exact ⟨library, name, hne, .base hitem⟩
  | pointer _ ih => exact ih hpath

end Scope

/-! ## The section of an item -/

theorem exists_mem_zip {α β : Type} {xs : List α} {ys : List β} (h : xs.length ≤ ys.length) {x : α}
    (hx : x ∈ xs) : ∃ y, (x, y) ∈ xs.zip ys := by
  rw [← List.map_fst_zip h] at hx
  obtain ⟨⟨first, y⟩, hpair, rfl⟩ := List.mem_map.mp hx
  exact ⟨y, hpair⟩

namespace Wrapper

/-- Whether some declarations are the section of the item of a name; the sections of the items come
first, in their order. -/
def IsSectionOf (w : Wrapper) (items : Items) (name : String) (decls : List Declaration) : Prop :=
  (name, decls) ∈ items.keys.zip w.sections

variable {library : Identity} {items : Items} {known : Symbols} {source : Option Path}
  {name : String} {decls : List Declaration}

theorem length_itemSections (library : Identity) (items : Items) (known : Symbols) :
    items.keys.length = (itemSections library items known).length := by
  rw [itemSections, ← (Scope.sections_forall₂ _ _ _).length_eq, Table.keys, Table.values,
    List.length_map, List.length_map]

theorem isSectionOf_iff :
    (ofItems library items known source).IsSectionOf items name decls ↔
      (name, decls) ∈ items.keys.zip (itemSections library items known) := by
  have hzip (rest : List (List Declaration)) :
      (items.keys ++ []).zip (itemSections library items known ++ rest) =
        items.keys.zip (itemSections library items known) ++ List.zip [] rest :=
    List.zip_append (length_itemSections library items known)
  simp only [List.append_nil, List.zip_nil_left] at hzip
  rw [IsSectionOf, ← hzip]
  rfl

/-- The section of a name declares the item of that name. -/
theorem IsSectionOf.declares
    (h : (ofItems library items known source).IsSectionOf items name decls) :
    ∃ item before, items.get? name = some item ∧
      (LocalNames.assign items known).taken ⊆ before ∧
      decls = ((Scope.of library items known).declare item before).declarations := by
  have hzip := isSectionOf_iff.mp h
  rw [Table.keys, List.zip_map_left, List.mem_map] at hzip
  obtain ⟨⟨entry, other⟩, hentry, heq⟩ := hzip
  obtain ⟨rfl, rfl⟩ := Prod.mk.inj heq
  have hsections := Scope.sections_forall₂ (.of library items known)
    (Scope.of library items known).names.taken items.values
  rw [Table.values, List.forall₂_map_left_iff] at hsections
  obtain ⟨before, hkeeps, hdecls⟩ := (List.forall₂_iff_zip.mp hsections).2 hentry
  refine ⟨entry.2, before, ?_, hkeeps, hdecls⟩
  exact Table.get?_eq_some_iff.mpr (List.of_mem_zip hentry).1

/-- Every item has a section. -/
theorem exists_isSectionOf (named : items.AreNamed) {item : Item} (h : item ∈ items.values)
    (library : Identity) (known : Symbols) (source : Option Path) :
    ∃ before, (ofItems library items known source).IsSectionOf items item.name
      ((Scope.of library items known).declare item before).declarations := by
  have hkey : item.name ∈ items.keys := named.names_values ▸ List.mem_map_of_mem h
  obtain ⟨decls, hpair⟩ := exists_mem_zip (length_itemSections library items known).le hkey
  have hsection : (ofItems library items known source).IsSectionOf items item.name decls :=
    isSectionOf_iff.mpr hpair
  obtain ⟨other, before, hother, -, rfl⟩ := hsection.declares
  rw [named.get?_name h, Option.some.injEq] at hother
  subst hother
  exact ⟨before, hsection⟩

/-! ## References -/

/-- The paths in the types of a wrapper. -/
def paths (w : Wrapper) : List TypeExpr :=
  w.declarations.flatMap fun decl => decl.types.flatMap TypeExpr.paths

/-- Every path in a wrapper is one by which an item refers to another library. -/
theorem paths_refer {path : TypeExpr} (h : path ∈ (ofItems library items known source).paths) :
    ∃ item ∈ items.novel known, ∃ other name, other ≠ library ∧
      (Scope.of library items known).Refers item other name path := by
  obtain ⟨decl, hdecl, hpath⟩ := List.mem_flatMap.mp h
  obtain ⟨type, htype, hpath⟩ := List.mem_flatMap.mp hpath
  rcases declarations_cases hdecl with ⟨isDoc, text, rfl⟩ | ⟨item, hitem, hemits⟩ | ⟨ident, rfl⟩
  · cases htype
  · exact ⟨item, hitem, (hemits.writes htype).refers hpath⟩
  · cases htype

/-- Whether a wrapper declares an identifier among the types for the item of a name. -/
def DeclaresFor (w : Wrapper) (items : Items) (name ident : String) : Prop :=
  ∃ decls, w.IsSectionOf items name decls ∧ ∃ decl ∈ decls, ident ∈ decl.typeNames

/-- Whether a wrapper declares the method structure of an interface under an identifier. -/
def DeclaresVtableFor (w : Wrapper) (items : Items) (name ident : String) : Prop :=
  ∃ decls, w.IsSectionOf items name decls ∧
    ∃ base object status slots, Declaration.vtable ident base object status slots ∈ decls

/-- Whether a type in the wrapper of another library leads to the item of a name: to the known
symbol of that name, or to what this wrapper declares for the item. -/
inductive LeadsTo (w : Wrapper) (items : Items) (known : Symbols) (name : String) : TypeExpr → Prop
  | symbol (h : known.contains name) : w.LeadsTo items known name (.name (.symbol name))
  | sibling {ident : String} (h : w.DeclaresFor items name ident) :
      w.LeadsTo items known name (.sibling w.library.wrapperStem ident)

/-- Whether a type in the wrapper of another library leads to the method structure that this
wrapper declares for an interface. -/
inductive LeadsToVtable (w : Wrapper) (items : Items) (name : String) : TypeExpr → Prop
  | sibling {ident : String} (h : w.DeclaresVtableFor items name ident) :
      w.LeadsToVtable items name (.sibling w.library.wrapperStem ident)

/-- Only an item that is no known symbol is declared, under its names or under one that no item
has. -/
theorem IsSectionOf.mem_typeNames (named : items.AreNamed)
    (h : (ofItems library items known source).IsSectionOf items name decls) {decl : Declaration}
    (hdecl : decl ∈ decls) {ident : String} (hident : ident ∈ decl.typeNames) :
    ∃ item ∈ items.novel known, item.name = name ∧
      (ident ∈ (LocalNames.assign items known).namesOf item ∨
        ident ∉ (LocalNames.assign items known).taken) := by
  obtain ⟨item, before, hitem, hkeeps, rfl⟩ := h.declares
  obtain ⟨hvalue, hname⟩ := named.of_get? hitem
  rcases Scope.mem_declare hdecl with ⟨owner, -, rfl⟩ | ⟨hnovel, -⟩
  · cases hident
  · have hnovel : item ∈ items.novel known := Items.mem_novel.mpr ⟨hvalue, hnovel⟩
    refine ⟨item, hnovel, hname, ?_⟩
    have hassigned : (Scope.of library items known).assigned item =
        (LocalNames.assign items known).namesOf item :=
      Scope.assigned_novel (Items.mem_novel.mp hnovel).2
    have hgiven : (LocalNames.assign items known).namesOf item ⊆ before := fun other hother =>
      hkeeps ((LocalNames.mem_taken_assign named).mpr (.inl ⟨item, hnovel, hother⟩))
    have hdistinct : ((LocalNames.assign items known).namesOf item).Nodup :=
      (List.nodup_flatMap.mp (LocalNames.nodup_namesOf named)).1 item hnovel
    rw [← hassigned] at hgiven hdistinct ⊢
    obtain ⟨htypes, -⟩ := Scope.fresh_declare hgiven hdistinct
    rcases htypes.origin ident (List.mem_flatMap.mpr ⟨decl, hdecl, hident⟩) with hmem | ⟨hfree, -⟩
    · exact .inl hmem
    · exact .inr fun htaken => hfree (hkeeps htaken)

/-- An item that is no known symbol is declared under its identifier. -/
theorem declaresFor_identOf (named : items.AreNamed) {item : Item}
    (hitem : item ∈ items.novel known) :
    (ofItems library items known source).DeclaresFor items item.name
      ((LocalNames.assign items known).identOf item.name) := by
  obtain ⟨hvalue, hnovel⟩ := Items.mem_novel.mp hitem
  obtain ⟨before, hsection⟩ := exists_isSectionOf named hvalue library known source
  have hassigned : (LocalNames.assign items known).identOf item.name ∈
      (Scope.of library items known).assigned item := by
    rw [Scope.assigned_novel hnovel]
    exact LocalNames.identOf_mem_namesOf _ item
  obtain ⟨decl, hdecl, hident⟩ := List.mem_flatMap.mp
    (Scope.assigned_subset_declare _ item before hassigned)
  exact ⟨_, hsection, decl, hdecl, hident⟩

/-- The method structure of an interface that is no known symbol is declared under its
identifier. -/
theorem declaresVtableFor_vtableOf (named : items.AreNamed) {item : Item}
    (hitem : item ∈ items.novel known) (hinterface : item.isInterface) :
    (ofItems library items known source).DeclaresVtableFor items item.name
      ((LocalNames.assign items known).vtableOf item.name) := by
  obtain ⟨hvalue, hnovel⟩ := Items.mem_novel.mp hitem
  obtain ⟨before, hsection⟩ := exists_isSectionOf named hvalue library known source
  refine ⟨_, hsection, ?_⟩
  rw [Scope.declare_novel _ hnovel]
  cases item with
  | interface name iid base methods =>
    exact ⟨_, _, _, _, List.mem_append_right _ List.mem_cons_self⟩
  | _ => cases hinterface

/-- Nothing else is declared as a method structure of an interface. -/
theorem DeclaresVtableFor.eq_vtableOf (named : items.AreNamed) {ident : String}
    (h : (ofItems library items known source).DeclaresVtableFor items name ident) :
    known.contains name = false ∧ ident = (LocalNames.assign items known).vtableOf name := by
  obtain ⟨decls, hsection, base, object, status, slots, hdecl⟩ := h
  obtain ⟨item, before, hitem, -, rfl⟩ := hsection.declares
  obtain ⟨-, rfl⟩ := named.of_get? hitem
  rcases Scope.mem_declare hdecl with ⟨owner, -, heq⟩ | ⟨hnovel, hemits⟩
  · cases heq
  · refine ⟨hnovel, ?_⟩
    cases hemits
    rfl

/-! ## Which references lead to the item -/

/-- The path to another library's item leads there exactly when the name is no known symbol and
its identifier was free. -/
theorem leadsTo_external_iff (named : items.AreNamed) {own : Identity} (hne : library ≠ own)
    (others : Items) (hname : name ∈ items.keys) :
    (ofItems library items known source).LeadsTo items known name
        ((Scope.of own others known).typeExpr (.external library name)) ↔
      known.contains name = false ∧
        identifier name ∉ (LocalNames.before items known name).taken := by
  have hpath : (Scope.of own others known).typeExpr (.external library name) =
      .sibling library.wrapperStem (identifier name) := if_neg hne
  rw [hpath]
  constructor
  · intro h
    cases h with
    | sibling h =>
      obtain ⟨decls, hsection, decl, hdecl, hident⟩ := h
      obtain ⟨item, hitem, rfl, hident⟩ := hsection.mem_typeNames named hdecl hident
      refine ⟨(Items.mem_novel.mp hitem).2, fun htaken => ?_⟩
      rcases hident with hident | hfree
      · -- both names of the item were free when its turn came
        rcases LocalNames.mem_namesOf.mp hident with heq | ⟨hinterface, heq⟩
        · rw [heq, LocalNames.identOf_assign named hitem] at htaken
          exact nextFree_not_mem _ _ htaken
        · rw [heq, LocalNames.vtableOf_assign named hitem hinterface] at htaken
          exact nextFree_not_mem _ _ (List.mem_cons_of_mem _ htaken)
      · exact hfree (LocalNames.before_subset named hitem htaken)
  · rintro ⟨hnovel, hfree⟩
    have hvalue : ∃ item ∈ items.values, item.name = name := by
      rw [← named.names_values] at hname
      exact List.mem_map.mp hname
    obtain ⟨item, hvalue, rfl⟩ := hvalue
    have hitem := Items.mem_novel.mpr ⟨hvalue, hnovel⟩
    have hident := LocalNames.identOf_assign named hitem
    rw [nextFree_of_not_mem hfree] at hident
    exact .sibling (hident ▸ declaresFor_identOf named hitem)

/-- The path to the method structure of another library's interface leads there exactly when the
path to the interface does and the identifier with the ending was free too. -/
theorem leadsToVtable_external_iff (named : items.AreNamed) {own : Identity} (hne : library ≠ own)
    (others : Items) {item : Item} (hitem : items.get? name = some item)
    (hinterface : item.isInterface) :
    (ofItems library items known source).LeadsToVtable items name
        ((Scope.of own others known).baseVtable (some (.external library name))) ↔
      known.contains name = false ∧
        identifier name ∉ (LocalNames.before items known name).taken ∧
        identifier name ++ "_Vtbl" ∉ (LocalNames.before items known name).taken := by
  have hpath : (Scope.of own others known).baseVtable (some (.external library name)) =
      .sibling library.wrapperStem (identifier name ++ "_Vtbl") := if_neg hne
  rw [hpath]
  obtain ⟨hvalue, rfl⟩ := named.of_get? hitem
  constructor
  · intro h
    cases h with
    | sibling h =>
      obtain ⟨hnovel, heq⟩ := h.eq_vtableOf named
      have hmem := Items.mem_novel.mpr ⟨hvalue, hnovel⟩
      have hident := LocalNames.identOf_assign named hmem
      have hvtable := LocalNames.vtableOf_assign named hmem hinterface
      -- a number anywhere would make the name longer than it is
      have hlength := congrArg String.length heq
      have hvtableLength := length_le_nextFree
        ((LocalNames.assign items known).identOf item.name ::
          (LocalNames.before items known item.name).taken)
        ((LocalNames.assign items known).identOf item.name ++ "_Vtbl")
      rw [← hvtable, ← hlength, String.length_append, String.length_append] at hvtableLength
      have hkept : (LocalNames.assign items known).identOf item.name = identifier item.name := by
        rw [hident]
        refine nextFree_eq_self_of_length_le ?_
        rw [← hident]
        omega
      rw [hkept, ← heq] at hvtable
      have hfree := nextFree_eq_self_iff.mp hvtable.symm
      exact ⟨hnovel, nextFree_eq_self_iff.mp (hident.symm.trans hkept),
        fun htaken => hfree (List.mem_cons_of_mem _ htaken)⟩
  · rintro ⟨hnovel, hfree, hfreeVtable⟩
    have hmem := Items.mem_novel.mpr ⟨hvalue, hnovel⟩
    have hident := LocalNames.identOf_assign named hmem
    rw [nextFree_of_not_mem hfree] at hident
    have hvtable := LocalNames.vtableOf_assign named hmem hinterface
    rw [hident, nextFree_of_not_mem] at hvtable
    · exact .sibling (hvtable ▸ declaresVtableFor_vtableOf named hmem hinterface)
    · intro htaken
      rcases List.mem_cons.mp htaken with heq | htaken
      · exact absurd (String.append_eq_left_iff.mp heq) (by decide)
      · exact hfreeVtable htaken

/-- The paths in a wrapper are those by which its items refer to other libraries.  Where the library
of such a path declares the name, the path leads to what its wrapper declares for the item, or for
the methods of an interface, exactly when the name is no known symbol and the identifiers made of it
were free. -/
theorem external_leads_iff {items : Items} (named : items.AreNamed) {library own : Identity}
    (hne : library ≠ own) (others : Items) (known : Symbols) (source source' : Option Path)
    {name : String} (hname : name ∈ items.keys) :
    let w := ofItems library items known source
    let scope := Scope.of own others known
    (∀ path ∈ (ofItems own others known source').paths, ∃ item ∈ others.novel known,
      ∃ target asked, target ≠ own ∧ scope.Refers item target asked path) ∧
    (w.LeadsTo items known name (scope.typeExpr (.external library name)) ↔
      known.contains name = false ∧
        identifier name ∉ (LocalNames.before items known name).taken) ∧
    ((∃ item, items.get? name = some item ∧ item.isInterface) →
      (w.LeadsToVtable items name (scope.baseVtable (some (.external library name))) ↔
        known.contains name = false ∧
          identifier name ∉ (LocalNames.before items known name).taken ∧
          identifier name ++ "_Vtbl" ∉ (LocalNames.before items known name).taken)) := by
  refine ⟨fun path hpath => paths_refer hpath, leadsTo_external_iff named hne others hname, ?_⟩
  rintro ⟨item, hitem, hinterface⟩
  exact leadsToVtable_external_iff named hne others hitem hinterface

/-- An interface on top of one of another library. -/
def extending (library : Identity) (name : String) : Items :=
  Table.ofList [("IRound", .interface "IRound" none (some (.external library name)) [])]

/-- A structure that comes first takes the name of the method structure, so the path to the
interface leads there and the path to its methods does not. -/
theorem external_leads_crowded :
    let library : Identity := ⟨⟨10#128⟩, 1, 0, 0⟩
    let own : Identity := ⟨⟨11#128⟩, 1, 0, 0⟩
    let others := extending library "IShape"
    let w := ofItems library crowded .standard none
    let scope := Scope.of own others .standard
    (ofItems own others .standard none).paths =
        [scope.baseVtable (some (.external library "IShape"))] ∧
      w.LeadsTo crowded .standard "IShape" (scope.typeExpr (.external library "IShape")) ∧
      ¬w.LeadsToVtable crowded "IShape"
        (scope.baseVtable (some (.external library "IShape"))) := by
  intro library own others w scope
  have hne : library ≠ own := by decide
  have hname : "IShape" ∈ crowded.keys := by decide
  have hitem : crowded.get? "IShape" = some (.interface "IShape" (some ⟨1#128⟩) none []) := by
    decide
  obtain ⟨-, hleads, hvtable⟩ :=
    external_leads_iff crowded_areNamed hne others .standard none none hname
  refine ⟨by decide, hleads.mpr (by decide), fun h => ?_⟩
  exact absurd ((hvtable ⟨_, hitem, rfl⟩).mp h).2.2 (by decide)

/-- An interface with the name of a known symbol, and two structures with one identifier. -/
def confusable : Items :=
  Table.ofList
    [("IUnknown", .interface "IUnknown" none none []), ("Foo Bar", .struct "Foo Bar" []),
      ("Foo_Bar", .struct "Foo_Bar" [])]

/-- Aliases of the interface and of the second structure. -/
def confused (library : Identity) : Items :=
  Table.ofList
    [("X", .typeAlias "X" (.external library "IUnknown")),
      ("Y", .typeAlias "Y" (.external library "Foo_Bar"))]

/-- The path to the known symbol leads nowhere, and the one to the second structure leads to the
first. -/
theorem confusable_misled :
    let library : Identity := ⟨⟨10#128⟩, 1, 0, 0⟩
    let own : Identity := ⟨⟨11#128⟩, 1, 0, 0⟩
    let w := ofItems library confusable .standard none
    let unknown : TypeExpr := .sibling library.wrapperStem "IUnknown"
    let second : TypeExpr := .sibling library.wrapperStem "Foo_Bar"
    confusable.AreNamed ∧
      (ofItems own (confused library) .standard none).paths = [unknown, second] ∧
      ¬w.LeadsTo confusable .standard "IUnknown" unknown ∧
      ¬w.LeadsTo confusable .standard "Foo_Bar" second ∧
      w.LeadsTo confusable .standard "Foo Bar" second := by
  intro library own w unknown second
  have named : confusable.AreNamed := by
    unfold Items.AreNamed
    decide
  have hne : library ≠ own := by decide
  let scope := Scope.of own (confused library) .standard
  have hunknown : scope.typeExpr (.external library "IUnknown") = unknown := by decide
  have hsecond : scope.typeExpr (.external library "Foo_Bar") = second := by decide
  have hfirst : scope.typeExpr (.external library "Foo Bar") = second := by decide
  have hiff {name : String} (hname : name ∈ confusable.keys) :
      w.LeadsTo confusable .standard name (scope.typeExpr (.external library name)) ↔
        Symbols.standard.contains name = false ∧
          identifier name ∉ (LocalNames.before confusable .standard name).taken :=
    leadsTo_external_iff named hne (confused library) hname
  refine ⟨named, by decide, fun h => ?_, fun h => ?_, ?_⟩
  · rw [← hunknown] at h
    exact absurd ((hiff (by decide)).mp h).1 (by decide)
  · rw [← hsecond] at h
    exact absurd ((hiff (by decide)).mp h).2 (by decide)
  · rw [← hfirst]
    exact (hiff (by decide)).mpr (by decide)

end Wrapper

end Typelib
