import Typelib.Proofs.Naming.Imports
import Typelib.Proofs.Wrapper.Sections

/-!
# The names that a wrapper defines

A wrapper defines every name at most once (`Wrapper.definitions_unique`).  The names come in three
ways.  The names of the items are assigned beforehand, and each is declared in the section of its
item.  The names of constants and of coclass aliases are reserved when they are declared, and were
free until then.  The names of placeholders come last and avoid all others.  `Fresh` says this of
the names that some declarations write in one namespace; it holds of a section (`Builds.fresh`), is
closed under putting sections one after the other (`Fresh.append`), and so holds of them all
(`fresh_sections`).
-/

namespace Typelib

/-- The names that some declarations write in one namespace are distinct, and each is an assigned
one or was reserved between the names taken before and those taken after the declarations. -/
structure Fresh (taken after given written : List String) : Prop where
  distinct : written.Nodup
  origin : ∀ name ∈ written, name ∈ given ∨ name ∉ taken ∧ name ∈ after

namespace Fresh

variable {taken mid after given written names : List String} {name : String}

theorem empty : Fresh taken after given [] := ⟨.nil, fun _ hname => absurd hname List.not_mem_nil⟩

/-- A name not written so far may be written once. -/
theorem write (h : written.Nodup) (hnew : name ∉ written) (hnames : names.Sublist [name]) :
    (written ++ names).Nodup := by
  rcases List.sublist_singleton.mp hnames with rfl | rfl
  · rwa [List.append_nil]
  · exact List.nodup_append.mpr ⟨h, List.nodup_singleton name, fun a ha b hb heq =>
      hnew (List.mem_singleton.mp hb ▸ heq ▸ ha)⟩

theorem assigned (h : Fresh taken after given written) (hnames : names.Sublist [name])
    (htaken : name ∈ taken) (hnew : name ∉ given) :
    Fresh taken after (given ++ [name]) (written ++ names) := by
  have hwritten : name ∉ written := fun hmem =>
    (h.origin name hmem).elim hnew fun hfree => hfree.1 htaken
  refine ⟨write h.distinct hwritten hnames, fun other hother => ?_⟩
  rcases List.mem_append.mp hother with hother | hother
  · exact (h.origin other hother).imp_left (List.mem_append_left _)
  · exact .inl (List.mem_append_right _ (hnames.subset hother))

theorem reserved (h : Fresh taken after given written) (hnames : names.Sublist [name])
    (hgiven : given ⊆ taken) (hkeeps : taken ⊆ after) (hfree : name ∉ after) :
    Fresh taken (name :: after) given (written ++ names) := by
  have hwritten : name ∉ written := fun hmem =>
    hfree ((h.origin name hmem).elim (fun hmem => hkeeps (hgiven hmem)) And.right)
  refine ⟨write h.distinct hwritten hnames, fun other hother => ?_⟩
  rcases List.mem_append.mp hother with hother | hother
  · exact (h.origin other hother).imp_right (And.imp_right (List.mem_cons_of_mem name))
  · obtain rfl := List.mem_singleton.mp (hnames.subset hother)
    exact .inr ⟨fun hmem => hfree (hkeeps hmem), List.mem_cons_self⟩

/-- Declarations one after the other: what the later ones reserve the earlier ones had left
free. -/
theorem append {given' written' : List String} (h : Fresh taken mid given written)
    (h' : Fresh mid after given' written') (hfirst : taken ⊆ mid) (hlast : mid ⊆ after)
    (hgiven : given ⊆ taken) (hgiven' : given' ⊆ taken) (hdisjoint : given.Disjoint given') :
    Fresh taken after (given ++ given') (written ++ written') := by
  have hwritten : ∀ name ∈ written, name ∈ mid := fun name hname =>
    (h.origin name hname).elim (fun hmem => hfirst (hgiven hmem)) And.right
  constructor
  · refine List.nodup_append.mpr ⟨h.distinct, h'.distinct, fun name hname other hother heq => ?_⟩
    subst heq
    rcases h'.origin name hother with hmem' | ⟨hfree, -⟩
    · rcases h.origin name hname with hmem | ⟨hfree, -⟩
      · exact hdisjoint hmem hmem'
      · exact hfree (hgiven' hmem')
    · exact hfree (hwritten name hname)
  · intro name hname
    rcases List.mem_append.mp hname with hname | hname
    · exact (h.origin name hname).imp (List.mem_append_left _)
        (And.imp_right fun hmem => hlast hmem)
    · refine (h'.origin name hname).imp (List.mem_append_right _) (And.imp_left ?_)
      exact fun hfree hmem => hfree (hfirst hmem)

end Fresh

namespace NameRef

variable {refs : List NameRef} {name : String}

theorem mem_symbols : name ∈ refs.filterMap symbol? ↔ .symbol name ∈ refs := by
  rw [List.mem_filterMap]
  constructor
  · rintro ⟨ref, href, heq⟩
    cases ref with
    | symbol other => exact Option.some.inj heq ▸ href
    | item _ | missing _ => cases heq
  · exact fun href => ⟨_, href, rfl⟩

theorem mem_missing : name ∈ refs.filterMap missing? ↔ .missing name ∈ refs := by
  rw [List.mem_filterMap]
  constructor
  · rintro ⟨ref, href, heq⟩
    cases ref with
    | missing other => exact Option.some.inj heq ▸ href
    | symbol _ | item _ => cases heq
  · exact fun href => ⟨_, href, rfl⟩

end NameRef

theorem freeName_not_mem (taken : List String) (preferred owner : String) :
    freeName taken preferred owner ∉ taken := by
  unfold freeName
  split
  · exact nextFree_not_mem _ _
  · assumption

namespace Scope

variable {scope : Scope} {item : Item} {taken given : List String} {d : Declared}

/-! ## The names of a section -/

/-- The names that a section declares among the types, and those among the values. -/
theorem Builds.fresh (h : scope.Builds item taken given d) (hgiven : given ⊆ taken)
    (hdistinct : given.Nodup) :
    Fresh taken d.taken given (d.declarations.flatMap Declaration.typeNames) ∧
      Fresh taken d.taken given (d.declarations.flatMap Declaration.valueNames) := by
  induction h with
  | start => exact ⟨.empty, .empty⟩
  | quiet _ htypes hvalues _ ih =>
    obtain ⟨ihtypes, ihvalues⟩ := ih hgiven hdistinct
    simp only [Declared.add, List.flatMap_append, List.flatMap_singleton, htypes, hvalues,
      List.append_nil]
    exact ⟨ihtypes, ihvalues⟩
  | assigned _ htypes hvalues _ ih =>
    obtain ⟨hgiven, htaken⟩ := List.append_subset.mp hgiven
    obtain ⟨hdistinct, -, hacross⟩ := List.nodup_append.mp hdistinct
    obtain ⟨ihtypes, ihvalues⟩ := ih hgiven hdistinct
    have htaken := htaken List.mem_cons_self
    have hnew := fun hmem => hacross _ hmem _ List.mem_cons_self rfl
    simp only [Declared.add, List.flatMap_append, List.flatMap_singleton]
    exact ⟨ihtypes.assigned (by rw [htypes]) htaken hnew, ihvalues.assigned hvalues htaken hnew⟩
  | reserved _ htypes hvalues _ rest ih =>
    obtain ⟨ihtypes, ihvalues⟩ := ih hgiven hdistinct
    simp only [Declared.reserve, List.flatMap_append, List.flatMap_singleton]
    exact ⟨ihtypes.reserved (htypes _) hgiven rest.keeps (freeName_not_mem _ _ _),
      ihvalues.reserved (hvalues _) hgiven rest.keeps (freeName_not_mem _ _ _)⟩

/-- The assigned names are declared among the types. -/
theorem Builds.given_subset (h : scope.Builds item taken given d) :
    given ⊆ d.declarations.flatMap Declaration.typeNames := by
  induction h with
  | start => exact List.nil_subset _
  | quiet _ htypes _ _ ih =>
    simpa only [Declared.add, List.flatMap_append, List.flatMap_singleton, htypes,
      List.append_nil] using ih
  | assigned _ htypes _ _ ih =>
    simp only [Declared.add, List.flatMap_append, List.flatMap_singleton, htypes]
    exact List.append_subset.mpr ⟨fun name hname => List.mem_append_left _ (ih hname),
      List.subset_append_right _ _⟩
  | reserved _ _ _ _ _ ih =>
    simp only [Declared.reserve, List.flatMap_append, List.flatMap_singleton]
    exact fun name hname => List.mem_append_left _ (ih hname)

/-- Beside the assigned names only aliases are declared among the types. -/
theorem Builds.types_subset (h : scope.Builds item taken given d) :
    d.declarations.flatMap Declaration.typeNames ⊆
      given ++ d.declarations.filterMap Declaration.aliasName? := by
  induction h with
  | start => exact List.nil_subset _
  | quiet _ htypes _ _ ih | assigned _ htypes _ _ ih =>
    simp only [Declared.add, List.flatMap_append, List.flatMap_singleton, htypes,
      List.filterMap_append]
    grind
  | reserved _ _ _ halias _ ih =>
    simp only [Declared.reserve, List.flatMap_append, List.flatMap_singleton,
      List.filterMap_append]
    grind

variable (scope) in
/-- The names assigned to an item; a known symbol has none. -/
def assigned (item : Item) : List String :=
  if scope.known.contains item.name then [] else scope.names.namesOf item

theorem assigned_novel (h : scope.known.contains item.name = false) :
    scope.assigned item = scope.names.namesOf item :=
  if_neg (by simp [h])

/-- The section of a known symbol is a comment, and any other one comes about in steps. -/
theorem declare_cases (scope : Scope) (item : Item) (taken : List String) :
    (scope.assigned item = [] ∧
      ∃ text, scope.declare item taken = ⟨[.comment false text], taken⟩) ∨
    scope.Builds item taken (scope.assigned item) (scope.declare item taken) := by
  cases howner : scope.known.get? item.name with
  | some owner =>
    exact .inl ⟨if_pos (by simp [Table.contains, howner]), _, declare_known howner taken⟩
  | none =>
    have hnovel : scope.known.contains item.name = false := by simp [Table.contains, howner]
    rw [assigned_novel hnovel, declare_novel scope hnovel]
    exact .inr (builds_declareItem scope item taken)

theorem fresh_declare (hgiven : scope.assigned item ⊆ taken)
    (hdistinct : (scope.assigned item).Nodup) :
    Fresh taken (scope.declare item taken).taken (scope.assigned item)
        ((scope.declare item taken).declarations.flatMap Declaration.typeNames) ∧
      Fresh taken (scope.declare item taken).taken (scope.assigned item)
        ((scope.declare item taken).declarations.flatMap Declaration.valueNames) := by
  rcases declare_cases scope item taken with ⟨-, text, heq⟩ | hbuilds
  · rw [heq]
    exact ⟨.empty, .empty⟩
  · exact hbuilds.fresh hgiven hdistinct

theorem assigned_subset_declare (scope : Scope) (item : Item) (taken : List String) :
    scope.assigned item ⊆
      (scope.declare item taken).declarations.flatMap Declaration.typeNames := by
  rcases declare_cases scope item taken with ⟨hempty, -⟩ | hbuilds
  · rw [hempty]
    exact List.nil_subset _
  · exact hbuilds.given_subset

theorem declare_subset_assigned (scope : Scope) (item : Item) (taken : List String) :
    (scope.declare item taken).declarations.flatMap Declaration.typeNames ⊆
      scope.assigned item ++
        (scope.declare item taken).declarations.filterMap Declaration.aliasName? := by
  rcases declare_cases scope item taken with ⟨-, text, heq⟩ | hbuilds
  · rw [heq]
    exact List.nil_subset _
  · exact hbuilds.types_subset

/-! ## The names of all sections -/

theorem fresh_sections {items : List Item} (hgiven : items.flatMap scope.assigned ⊆ taken)
    (hdistinct : (items.flatMap scope.assigned).Nodup) :
    ∃ after, taken ⊆ after ∧
      Fresh taken after (items.flatMap scope.assigned)
        ((scope.sections taken items).flatten.flatMap Declaration.typeNames) ∧
      Fresh taken after (items.flatMap scope.assigned)
        ((scope.sections taken items).flatten.flatMap Declaration.valueNames) := by
  induction items generalizing taken with
  | nil => exact ⟨taken, List.Subset.refl _, .empty, .empty⟩
  | cons item rest ih =>
    rw [List.flatMap_cons] at hgiven hdistinct
    obtain ⟨hitem, hrest⟩ := List.append_subset.mp hgiven
    obtain ⟨hdistinctItem, hdistinctRest, hacross⟩ := List.nodup_append'.mp hdistinct
    have hkeeps := declare_keeps scope item taken
    obtain ⟨htypes, hvalues⟩ := fresh_declare hitem hdistinctItem
    obtain ⟨after, hafter, htypesRest, hvaluesRest⟩ :=
      ih (List.Subset.trans hrest hkeeps) hdistinctRest
    simp only [sections, List.flatten_cons, List.flatMap_append, List.flatMap_cons]
    exact ⟨after, List.Subset.trans hkeeps hafter,
      htypes.append htypesRest hkeeps hafter hitem hrest hacross,
      hvalues.append hvaluesRest hkeeps hafter hitem hrest hacross⟩

theorem assigned_subset_sections {items : List Item} :
    items.flatMap scope.assigned ⊆
      (scope.sections taken items).flatten.flatMap Declaration.typeNames := by
  induction items generalizing taken with
  | nil => exact List.nil_subset _
  | cons item rest ih =>
    simp only [sections, List.flatten_cons, List.flatMap_append, List.flatMap_cons]
    exact List.append_subset.mpr
      ⟨fun name hname => List.mem_append_left _ (assigned_subset_declare scope item taken hname),
        fun name hname => List.mem_append_right _ (ih hname)⟩

theorem sections_subset_assigned {items : List Item} :
    (scope.sections taken items).flatten.flatMap Declaration.typeNames ⊆
      items.flatMap scope.assigned ++
        (scope.sections taken items).flatten.filterMap Declaration.aliasName? := by
  induction items generalizing taken with
  | nil => exact List.nil_subset _
  | cons item rest ih =>
    have hitem := declare_subset_assigned scope item taken
    have hrest := @ih (scope.declare item taken).taken
    simp only [sections, List.flatten_cons, List.flatMap_append, List.flatMap_cons,
      List.filterMap_append]
    grind

theorem flatMap_assigned (scope : Scope) (items : List Item) :
    items.flatMap scope.assigned =
      (items.filter fun item => scope.known.contains item.name = false).flatMap
        scope.names.namesOf := by
  induction items with
  | nil => rfl
  | cons item rest ih =>
    by_cases hknown : scope.known.contains item.name <;> simpa [assigned, hknown] using ih

end Scope

namespace Wrapper

/-! ## The names of a wrapper -/

/-- The names a wrapper declares among the types. -/
def typeNames (w : Wrapper) : List String := w.declarations.flatMap Declaration.typeNames

/-- The names a wrapper declares among the values. -/
def valueNames (w : Wrapper) : List String := w.declarations.flatMap Declaration.valueNames

/-- The names a wrapper imports. -/
def importedNames (w : Wrapper) : List String := w.imports.flatMap Import.names

section

variable (library : Identity) (items : Items) (known : Symbols) (source : Option Path)

/-- The sections of the items of a library. -/
def itemSections : List (List Declaration) :=
  (Scope.of library items known).sections (Scope.of library items known).names.taken items.values

/-- What the declarations give is what those of the items and those of the placeholders give. -/
theorem flatMap_declarations_ofItems {α : Type} (f : Declaration → List α) :
    (ofItems library items known source).declarations.flatMap f =
      (itemSections library items known).flatten.flatMap f ++
        (placeholders (Scope.of library items known) (itemSections library items known)).flatMap
          fun ident => (placeholder ident).flatMap f := by
  simp only [declarations, ofItems, itemSections, List.flatten_append, List.flatMap_append,
    ← List.flatMap_def, List.flatMap_assoc]

theorem typeNames_ofItems :
    (ofItems library items known source).typeNames =
      (itemSections library items known).flatten.flatMap Declaration.typeNames ++
        placeholders (Scope.of library items known) (itemSections library items known) := by
  have hplaceholder (ident : String) :
      (placeholder ident).flatMap Declaration.typeNames = [ident] := rfl
  rw [typeNames, flatMap_declarations_ofItems]
  simp only [hplaceholder, List.flatMap_singleton']

theorem importedNames_ofItems :
    (ofItems library items known source).importedNames =
      (known.imports ((namesOf (itemSections library items known)).filterMap
        NameRef.symbol?)).flatMap Import.names := rfl

variable {library items known}

theorem mem_placeholders {scope : Scope} {sections : List (List Declaration)} {ident : String} :
    ident ∈ placeholders scope sections ↔
      NameRef.missing ident ∈ namesOf sections ∧ ident ∉ scope.names.taken ∧
        ident ∉ sections.flatten.filterMap Declaration.aliasName? := by
  simp only [placeholders, List.mem_filter, mem_sortedTexts, NameRef.mem_missing,
    decide_eq_true_eq]

theorem nodup_placeholders (scope : Scope) (sections : List (List Declaration)) :
    (placeholders scope sections).Nodup :=
  (nodup_sortedTexts _).filter _

/-- The names assigned to the items are taken before anything is declared. -/
theorem assigned_taken (named : items.AreNamed) :
    items.values.flatMap (Scope.of library items known).assigned ⊆
      (LocalNames.assign items known).taken := by
  rw [Scope.flatMap_assigned]
  intro name hname
  obtain ⟨item, hitem, hname⟩ := List.mem_flatMap.mp hname
  exact (LocalNames.mem_taken_assign named).mpr (.inl ⟨item, hitem, hname⟩)

/-- A name that is an assigned one, or was free at the start, is no known symbol. -/
theorem not_known_of_fresh (named : items.AreNamed) {after written : List String}
    (h : Fresh (LocalNames.assign items known).taken after
      (items.values.flatMap (Scope.of library items known).assigned) written) {name : String}
    (hname : name ∈ written) : known.contains name = false := by
  rcases h.origin name hname with hassigned | ⟨hfree, -⟩
  · rw [Scope.flatMap_assigned] at hassigned
    obtain ⟨item, hitem, hname⟩ := List.mem_flatMap.mp hassigned
    exact LocalNames.not_known_of_mem_namesOf named hitem hname
  · by_contra hknown
    exact hfree ((LocalNames.mem_taken_assign named).mpr (.inr (by simpa using hknown)))

/-- A placeholder has a name that no section declares among the types. -/
theorem placeholder_not_mem_types (named : items.AreNamed) {ident : String}
    (h : ident ∈ placeholders (Scope.of library items known) (itemSections library items known)) :
    ident ∉ (itemSections library items known).flatten.flatMap Declaration.typeNames := by
  obtain ⟨-, hfree, halias⟩ := mem_placeholders.mp h
  intro hmem
  rcases List.mem_append.mp (Scope.sections_subset_assigned hmem) with hassigned | hmem
  · exact hfree (assigned_taken named hassigned)
  · exact halias hmem

variable (library known) in
/-- The sections give names that are fresh beside those that were taken. -/
theorem fresh_itemSections (named : items.AreNamed) :
    ∃ after,
      Fresh (LocalNames.assign items known).taken after
          (items.values.flatMap (Scope.of library items known).assigned)
          ((itemSections library items known).flatten.flatMap Declaration.typeNames) ∧
        Fresh (LocalNames.assign items known).taken after
          (items.values.flatMap (Scope.of library items known).assigned)
          ((itemSections library items known).flatten.flatMap Declaration.valueNames) := by
  have hdistinct : (items.values.flatMap (Scope.of library items known).assigned).Nodup := by
    rw [Scope.flatMap_assigned]
    exact LocalNames.nodup_namesOf named
  obtain ⟨after, -, htypes, hvalues⟩ := Scope.fresh_sections (assigned_taken named) hdistinct
  exact ⟨after, htypes, hvalues⟩

variable {source}

theorem not_known_of_mem_typeNames (named : items.AreNamed) {name : String}
    (h : name ∈ (ofItems library items known source).typeNames) : known.contains name = false := by
  obtain ⟨after, htypes, -⟩ := fresh_itemSections library known named
  rw [typeNames_ofItems] at h
  rcases List.mem_append.mp h with hsection | hplaceholder
  · exact not_known_of_fresh named htypes hsection
  · by_contra hknown
    refine (mem_placeholders.mp hplaceholder).2.1 ?_
    exact (LocalNames.mem_taken_assign named).mpr (.inr (by simpa using hknown))

theorem nodup_typeNames (named : items.AreNamed) :
    (ofItems library items known source).typeNames.Nodup := by
  obtain ⟨after, htypes, -⟩ := fresh_itemSections library known named
  rw [typeNames_ofItems]
  refine List.nodup_append'.mpr ⟨htypes.distinct, nodup_placeholders _ _, ?_⟩
  exact fun name hname hplaceholder => placeholder_not_mem_types named hplaceholder hname

end

/-- Items whose identifiers, method structures, constants and members collide, and one that refers
to a name that nothing declares. -/
def crowded : Items :=
  Table.ofList
    [("IShape_Vtbl", .struct "IShape_Vtbl" []), ("IID_IShape", .struct "IID_IShape" []),
      ("IShape", .interface "IShape" (some ⟨1#128⟩) none []),
      ("Shape", .coClass "Shape" none [⟨.named "IShape", true, false⟩]),
      ("Fill", .enumeration "Fill" [("None", 0)]), ("Line", .enumeration "Line" [("None", 0)]),
      ("Owner", .typeAlias "Owner" (.named "Drawing"))]

theorem crowded_areNamed : crowded.AreNamed := by
  unfold Items.AreNamed
  decide

end Wrapper

end Typelib
