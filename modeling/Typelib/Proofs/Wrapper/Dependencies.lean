import Typelib.Proofs.Wrapper.Code
import Typelib.Proofs.Wrapper.Paths

/-!
# The libraries that a wrapper depends on

Which other libraries a wrapper refers to is found out twice, and in different ways: its types lead
to their wrappers by paths, and its items are searched for the libraries they mention.  What the
search finds is described by `Item.Holds`, the places of an item where a type stands, and
`TypeRef.Mentions`, the occurrence of a library in a type at any depth.  Every reference to another
library is a path to the wrapper of a library that the search finds (`Wrapper.paths_reported`).

Known symbols are written as they are, and one may be called like a path
(`Wrapper.symbol_path_unreported`).  If none of them has a path in its name, the texts of types have
no paths in them but those to the wrappers of externals (`Wrapper.sibling_paths_reported`).
-/

namespace Typelib

/-! ## Mentions -/

/-- Whether a library occurs in a type, at any depth. -/
inductive TypeRef.Mentions (library : Identity) : TypeRef → Prop
  | external (name : String) : Mentions library (.external library name)
  | pointer {target : TypeRef} (h : Mentions library target) : Mentions library (.pointer target)
  | array {element : TypeRef} (length : UInt32) (h : Mentions library element) :
      Mentions library (.array element length)
  | safeArray {element : TypeRef} (h : Mentions library element) :
      Mentions library (.safeArray element)

/-- Whether a type stands at some place of an item. -/
inductive Item.Holds : Item → TypeRef → Prop
  | base {name : String} {iid : Option Guid} {methods : List Method} (type : TypeRef) :
      Holds (.interface name iid (some type) methods) type
  | param {name : String} {iid : Option Guid} {base : Option TypeRef} {methods : List Method}
      {m : Method} (hmethod : m ∈ methods) {p : Param} (hparam : p ∈ m.params) :
      Holds (.interface name iid base methods) p.type
  | result {name : String} {iid : Option Guid} {base : Option TypeRef} {methods : List Method}
      {m : Method} (hmethod : m ∈ methods) : Holds (.interface name iid base methods) m.returns
  | dispatchParam {name : String} {iid : Option Guid} {methods : List Method} {m : Method}
      (hmethod : m ∈ methods) {p : Param} (hparam : p ∈ m.params) :
      Holds (.dispInterface name iid methods) p.type
  | dispatchResult {name : String} {iid : Option Guid} {methods : List Method} {m : Method}
      (hmethod : m ∈ methods) : Holds (.dispInterface name iid methods) m.returns
  | implemented {name : String} {clsid : Option Guid} {implemented : List Implemented}
      {i : Implemented} (h : i ∈ implemented) : Holds (.coClass name clsid implemented) i.interface
  | field {name : String} {fields : List Field} {f : Field} (h : f ∈ fields) :
      Holds (.struct name fields) f.type
  | target {name : String} (type : TypeRef) : Holds (.typeAlias name type) type

variable {library other : Identity} {items : Items} {item : Item} {type : TypeRef}

theorem TypeRef.mem_libraries_iff : other ∈ type.libraries ↔ type.Mentions other := by
  induction type with
  | builtin _ | named _ | unsupported _ =>
    refine ⟨fun h => ?_, fun h => ?_⟩ <;> cases h
  | pointer target ih =>
    refine ih.trans ⟨.pointer, fun h => ?_⟩
    cases h
    assumption
  | array element length ih =>
    refine ih.trans ⟨.array length, fun h => ?_⟩
    cases h
    assumption
  | safeArray element ih =>
    refine ih.trans ⟨.safeArray, fun h => ?_⟩
    cases h
    assumption
  | external named name =>
    constructor
    · intro h
      rw [List.mem_singleton.mp h]
      exact .external name
    · intro h
      cases h
      exact List.mem_singleton_self _

theorem TypeRef.mentions_of_mem_externalNames {name : String}
    (h : (other, name) ∈ type.externalNames) : type.Mentions other := by
  induction type with
  | builtin _ | named _ | unsupported _ => cases h
  | pointer target ih => exact .pointer (ih h)
  | array element length ih => exact .array length (ih h)
  | safeArray element ih => exact .safeArray (ih h)
  | external named asked =>
    obtain ⟨rfl, rfl⟩ := Prod.mk.inj (List.mem_singleton.mp h)
    exact .external name

theorem Method.mem_types_iff {m : Method} :
    type ∈ m.types ↔ (∃ p ∈ m.params, p.type = type) ∨ m.returns = type := by
  simp only [Method.types, List.mem_append, List.mem_map, List.mem_singleton, eq_comm]

theorem Item.mem_types_iff : type ∈ item.types ↔ item.Holds type := by
  constructor
  · intro h
    cases item with
    | interface name iid base methods =>
      rcases List.mem_append.mp h with h | h
      · obtain rfl := Option.mem_toList.mp h
        exact .base type
      · obtain ⟨m, hmethod, h⟩ := List.mem_flatMap.mp h
        rcases Method.mem_types_iff.mp h with ⟨p, hparam, rfl⟩ | rfl
        · exact .param hmethod hparam
        · exact .result hmethod
    | dispInterface name iid methods =>
      obtain ⟨m, hmethod, h⟩ := List.mem_flatMap.mp h
      rcases Method.mem_types_iff.mp h with ⟨p, hparam, rfl⟩ | rfl
      · exact .dispatchParam hmethod hparam
      · exact .dispatchResult hmethod
    | coClass name clsid implemented =>
      obtain ⟨i, hi, rfl⟩ := List.mem_map.mp h
      exact .implemented hi
    | struct name fields =>
      obtain ⟨f, hf, rfl⟩ := List.mem_map.mp h
      exact .field hf
    | typeAlias name target =>
      obtain rfl := List.mem_singleton.mp h
      exact .target type
    | enumeration _ _ | constants _ _ | unsupported _ _ => cases h
  · intro h
    cases h with
    | base => exact List.mem_append_left _ List.mem_cons_self
    | param hmethod hparam =>
      refine List.mem_append_right _ (List.mem_flatMap.mpr ⟨_, hmethod, ?_⟩)
      exact Method.mem_types_iff.mpr (.inl ⟨_, hparam, rfl⟩)
    | result hmethod =>
      refine List.mem_append_right _ (List.mem_flatMap.mpr ⟨_, hmethod, ?_⟩)
      exact Method.mem_types_iff.mpr (.inr rfl)
    | dispatchParam hmethod hparam =>
      exact List.mem_flatMap.mpr ⟨_, hmethod, Method.mem_types_iff.mpr (.inl ⟨_, hparam, rfl⟩)⟩
    | dispatchResult hmethod =>
      exact List.mem_flatMap.mpr ⟨_, hmethod, Method.mem_types_iff.mpr (.inr rfl)⟩
    | implemented h => exact List.mem_map_of_mem h
    | field h => exact List.mem_map_of_mem h
    | target => exact List.mem_singleton_self _

/-- The externals are the other libraries that the items mention. -/
theorem Items.mem_externals_iff : other ∈ items.externals library ↔
    other ≠ library ∧ ∃ item ∈ items.values, ∃ type, item.Holds type ∧ type.Mentions other := by
  simp only [Items.externals, Identity.sorted, mem_ascending, List.mem_filter, List.mem_flatMap,
    Item.mem_types_iff, TypeRef.mem_libraries_iff, ne_eq, decide_eq_true_eq]
  exact and_comm

/-! ## Paths -/

namespace Scope

variable {scope : Scope} {path : TypeExpr} {name : String}

theorem Refers.mentions (h : scope.Refers item other name path) :
    ∃ type, item.Holds type ∧ type.Mentions other := by
  cases h with
  | value htype hname =>
    exact ⟨_, Item.mem_types_iff.mp htype, TypeRef.mentions_of_mem_externalNames hname⟩
  | base hitem =>
    rw [hitem]
    exact ⟨_, .base _, .external name⟩

/-- A reference to another library is a path to its wrapper. -/
theorem Refers.eq_sibling (h : scope.Refers item other name path) (hne : other ≠ scope.own) :
    ∃ ident, IsIdentifier ident ∧ path = .sibling other.wrapperStem ident := by
  cases h with
  | value => exact ⟨identifier name, identifier_isIdentifier name, if_neg hne⟩
  | base => exact ⟨_, vtable_isIdentifier (identifier_isIdentifier name), if_neg hne⟩

/-! ## Identifiers -/

theorem refer_isIdentifier (hnames : scope.names.AreIdentifiers) (name : String)
    (hsymbol : (scope.refer name).symbol? = none) : IsIdentifier (scope.refer name).ident := by
  unfold refer at hsymbol ⊢
  split
  · rename_i hknown
    rw [if_pos hknown] at hsymbol
    cases hsymbol
  · cases hident : scope.names.idents.get? name with
    | none => exact identifier_isIdentifier name
    | some ident => exact hnames.idents hident

theorem vtableRef_isIdentifier (hnames : scope.names.AreIdentifiers) (name : String)
    (hsymbol : (scope.vtableRef name).symbol? = none) :
    IsIdentifier (scope.vtableRef name).ident := by
  simp only [vtableRef] at hsymbol ⊢
  split at hsymbol <;> rename_i hknown
  · cases hsymbol
  · rw [if_neg hknown]
    split at hsymbol
    · rename_i ident hident
      exact hnames.vtables hident
    · split at hsymbol
      · exact refer_isIdentifier hnames _ hsymbol
      · exact refer_isIdentifier hnames _ hsymbol
      · exact vtable_isIdentifier (identifier_isIdentifier name)

theorem slot_isIdentifier {methods : List Method} {slot : Slot} (h : slot ∈ scope.slots methods) :
    ∀ ident ∈ slot.name :: slot.params.map Prod.fst, IsIdentifier ident := by
  rw [slots, ← List.map_uncurry_zip_eq_zipWith, List.mem_map] at h
  obtain ⟨⟨slotName, m⟩, hzip, rfl⟩ := h
  refine List.forall_mem_cons.mpr ⟨slotNames_isIdentifier (List.of_mem_zip hzip).1, ?_⟩
  intro ident hident
  obtain ⟨param, hparam, rfl⟩ := List.mem_map.mp hident
  obtain ⟨⟨declared, index⟩, -, rfl⟩ := List.mem_map.mp hparam
  exact paramName_isIdentifier index declared.name

/-- Entries that are named by identifiers made of texts keep such names when the first of each
name is taken. -/
theorem firstByName_isIdentifier {α : Type} {entries : List (String × α)}
    (h : ∀ entry ∈ entries, IsIdentifier entry.1) :
    ∀ ident ∈ (firstByName [] entries).map Prod.fst, IsIdentifier ident := by
  intro ident hident
  obtain ⟨entry, hentry, rfl⟩ := List.mem_map.mp hident
  exact h entry (firstByName_sublist.subset hentry)

theorem memberNumbers_isIdentifier (methods : List Method) :
    ∀ ident ∈ (memberNumbers methods).map Prod.fst, IsIdentifier ident := by
  refine firstByName_isIdentifier fun entry hentry => ?_
  obtain ⟨m, -, hm⟩ := List.mem_filterMap.mp hentry
  obtain ⟨memid, -, rfl⟩ := Option.map_eq_some_iff.mp hm
  exact identifier_isIdentifier m.name

theorem recordFields_isIdentifier (fields : List Field) :
    ∀ ident ∈ (scope.recordFields fields).map Prod.fst, IsIdentifier ident := by
  intro ident hident
  obtain ⟨entry, hentry, rfl⟩ := List.mem_map.mp hident
  obtain ⟨field, hfield, rfl⟩ := List.mem_map.mp hentry
  obtain ⟨f, -, rfl⟩ := List.mem_map.mp (firstByName_sublist.subset hfield)
  exact identifier_isIdentifier f.name

theorem moduleConstants_isIdentifier (values : List Constant) :
    ∀ ident ∈ (moduleConstants values).map Prod.fst, IsIdentifier ident := by
  refine firstByName_isIdentifier fun entry hentry => ?_
  obtain ⟨c, -, rfl⟩ := List.mem_map.mp hentry
  exact identifier_isIdentifier c.name

/-- What a declaration of an item is called, and what it calls its parts, are identifiers. -/
theorem Emits.idents (hnames : scope.names.AreIdentifiers) {decl : Declaration}
    (h : scope.Emits item decl) : ∀ ident ∈ decl.idents, IsIdentifier ident := by
  have hreserved (taken : List String) {mark : String} (hmark : IsIdentifier mark)
      (name : String) : IsIdentifier (freeName taken (mark ++ "_" ++ scope.names.identOf name)
        (scope.names.identOf name)) :=
    freeName_isIdentifier (hmark.joined (hnames.identOf name).chars) (hnames.identOf name)
  have hmarks : IsIdentifier "IID" ∧ IsIdentifier "CLSID" := by decide
  cases h with
  | interfaceTitle | dispatchTitle | coClassTitle | enumerationTitle | unsupportedTitle =>
    exact fun ident hident => absurd hident List.not_mem_nil
  | interfaceHandle | dispatchHandle | coClassUnit | coClassLabels | enumerationAlias | typeAlias
  | unsupportedHollow => exact List.forall_mem_singleton.mpr (hnames.identOf _)
  | interfaceGuid taken | dispatchGuid taken =>
    exact List.forall_mem_singleton.mpr (hreserved taken hmarks.1 _)
  | coClassGuid taken => exact List.forall_mem_singleton.mpr (hreserved taken hmarks.2 _)
  | interfaceVtable =>
    refine List.forall_mem_cons.mpr ⟨hnames.vtableOf _, fun ident hident => ?_⟩
    obtain ⟨slot, hslot, hident⟩ := List.mem_flatMap.mp hident
    exact slot_isIdentifier hslot ident hident
  | dispatchNumbers =>
    exact List.forall_mem_cons.mpr ⟨hnames.identOf _, memberNumbers_isIdentifier _⟩
  | @coClassChosen name _ _ taken ending hending =>
    have hchars : ∀ ending ∈ ["Default", "Source"], ending.toList.all isIdentifierChar := by
      decide
    have hname := hnames.identOf name
    refine List.forall_mem_singleton.mpr (freeName_isIdentifier (hname.joined ?_) hname)
    exact List.all_eq_true.mp (hchars ending hending)
  | @enumerationMember name _ taken member =>
    have hmember : IsIdentifier (freeName taken (identifier member.1) (scope.names.identOf name)) :=
      freeName_isIdentifier (identifier_isIdentifier _) (hnames.identOf _)
    exact List.forall_mem_cons.mpr ⟨hmember, List.forall_mem_singleton.mpr (hnames.identOf _)⟩
  | struct => exact List.forall_mem_cons.mpr ⟨hnames.identOf _, recordFields_isIdentifier _⟩
  | constants =>
    exact List.forall_mem_cons.mpr ⟨hnames.identOf _, moduleConstants_isIdentifier _⟩

end Scope

/-! ## The lines of a wrapper -/

namespace Wrapper

variable {known : Symbols} {source : Option Path}

/-- The texts in the imports of a wrapper. -/
def importTexts (w : Wrapper) : List String := w.imports.flatMap fun i => i.owner :: i.names

/-- The stems of the wrappers that the externals of a library have. -/
def externalStems (items : Items) (library : Identity) : List String :=
  (items.externals library).map Identity.wrapperStem

theorem importedNames_subset (w : Wrapper) : w.importedNames ⊆ w.importTexts := by
  intro name hname
  obtain ⟨i, hi, hname⟩ := List.mem_flatMap.mp hname
  exact List.mem_flatMap.mpr ⟨i, hi, List.mem_cons_of_mem _ hname⟩

/-- Every path in a wrapper leads to the wrapper of one of its externals. -/
theorem paths_reported {path : TypeExpr} (h : path ∈ (ofItems library items known source).paths) :
    ∃ other ∈ items.externals library, ∃ ident, IsIdentifier ident ∧
      path = .sibling other.wrapperStem ident := by
  obtain ⟨item, hitem, other, name, hne, hrefers⟩ := paths_refer h
  have hvalue : item ∈ items.values := (Items.mem_novel.mp hitem).1
  refine ⟨other, Items.mem_externals_iff.mpr ⟨hne, item, hvalue, hrefers.mentions⟩, ?_⟩
  exact hrefers.eq_sibling hne

/-- Every bare name in a wrapper is an identifier, or it is a known symbol and imported. -/
theorem writtenNames_cases {ref : NameRef}
    (h : ref ∈ (ofItems library items known source).writtenNames) :
    IsIdentifier ref.ident ∨ ∃ name ∈ (ofItems library items known source).importedNames,
      known.contains name ∧ ref = .symbol name := by
  have hident : ref.symbol? = none → IsIdentifier ref.ident := by
    have hnames := LocalNames.areIdentifiers_assign items known
    obtain ⟨decl, hdecl, href⟩ := List.mem_flatMap.mp h
    obtain ⟨type, htype, href⟩ := List.mem_flatMap.mp href
    rcases declarations_cases hdecl with ⟨isDoc, text, rfl⟩ | ⟨item, -, hemits⟩ | ⟨ident, rfl⟩
    · cases htype
    · refine (hemits.writes htype).forall_names (P := fun ref => ref.symbol? = none →
        IsIdentifier ref.ident) ?_ ?_ ref href
      · exact Scope.refer_isIdentifier hnames
      · exact Scope.vtableRef_isIdentifier hnames
    · cases htype
  cases ref with
  | symbol name =>
    have himported := mem_importedNames.mpr ⟨h, writtenNames_means h⟩
    exact .inr ⟨name, himported, writtenNames_means h, rfl⟩
  | item ident | missing ident => exact .inl (hident rfl)

theorem writtenNames_sound {symbols : List String}
    (hsymbols : (ofItems library items known source).importedNames ⊆ symbols) {ref : NameRef}
    (h : ref ∈ (ofItems library items known source).writtenNames) : ref.IsSound symbols :=
  (writtenNames_cases h).imp_right fun ⟨name, himported, _, heq⟩ => ⟨name, hsymbols himported, heq⟩

theorem idents_sound {decl : Declaration}
    (h : decl ∈ (ofItems library items known source).declarations) :
    ∀ ident ∈ decl.idents, IsIdentifier ident := by
  rcases mem_declarations_ofItems.mp h with h | ⟨ident, hplaceholder, h⟩
  · obtain ⟨item, -, before, -, hdecl⟩ := Scope.mem_sections h
    rcases Scope.mem_declare hdecl with ⟨owner, -, rfl⟩ | ⟨-, hemits⟩
    · exact fun ident hident => absurd hident List.not_mem_nil
    · exact hemits.idents (LocalNames.areIdentifiers_assign items known)
  · have hmissing : NameRef.missing ident ∈ (ofItems library items known source).writtenNames := by
      rw [writtenNames_ofItems]
      exact (mem_placeholders.mp hplaceholder).1
    have hident : IsIdentifier ident := by
      rcases writtenNames_cases hmissing with hident | ⟨name, -, -, heq⟩
      · exact hident
      · cases heq
    simp only [placeholder, List.mem_cons, List.not_mem_nil, or_false] at h
    rcases h with rfl | rfl
    · exact fun ident hident => absurd hident List.not_mem_nil
    · exact List.forall_mem_singleton.mpr hident

section Declarations

variable {decl : Declaration} (hdecl : decl ∈ (ofItems library items known source).declarations)
  {type : TypeExpr} (htype : type ∈ decl.types)

include hdecl htype

theorem mem_writtenNames {ref : NameRef} (href : ref ∈ type.names) :
    ref ∈ (ofItems library items known source).writtenNames :=
  List.mem_flatMap.mpr ⟨decl, hdecl, List.mem_flatMap.mpr ⟨type, htype, href⟩⟩

/-- The paths in a type lead to wrappers of externals. -/
theorem type_paths : ∀ path ∈ type.paths, ∃ stem ∈ externalStems items library, ∃ ident,
    IsIdentifier ident ∧ path = .sibling stem ident := by
  intro path hpath
  have hmem : path ∈ (ofItems library items known source).paths :=
    List.mem_flatMap.mpr ⟨decl, hdecl, List.mem_flatMap.mpr ⟨type, htype, hpath⟩⟩
  obtain ⟨other, hother, hident⟩ := paths_reported hmem
  exact ⟨other.wrapperStem, List.mem_map_of_mem hother, hident⟩

/-- If the known symbols have no paths in them, there are no other paths in its text. -/
theorem pathsLead_externals (hknown : ∀ name, known.contains name → PathsLead [] name.toList) :
    PathsLead (externalStems items library) type.text.toList := by
  refine TypeExpr.pathsLead_text (fun ref href => ?_) (type_paths hdecl htype)
    fun stem hstem hletter => ?_
  · have hwritten := mem_writtenNames hdecl htype href
    rcases writtenNames_cases hwritten with hident | ⟨name, -, hname, rfl⟩
    · exact .of_isIdentifier hident
    · exact .of_nil (hknown name hname)
  · obtain ⟨other, -, rfl⟩ := List.mem_map.mp hstem
    rcases Identity.mem_wrapperStem hletter with heq | hhex
    · exact absurd heq (by decide)
    · exact absurd hhex (by decide)

end Declarations

section Symbols

variable {symbols : List String} {decl : Declaration}
  (hsymbols : (ofItems library items known source).importedNames ⊆ symbols)
  (hdecl : decl ∈ (ofItems library items known source).declarations)

include hsymbols hdecl

/-- The declarations of a wrapper are sound in its externals and in the names it imports. -/
theorem declarations_sound : decl.IsSound symbols (externalStems items library) where
  idents := idents_sound hdecl
  types _ htype := ⟨fun _ href => writtenNames_sound hsymbols (mem_writtenNames hdecl htype href),
    type_paths hdecl htype⟩

/-- The lines of a declaration are comments or code. -/
theorem declaration_line_cases {line : String} (h : line ∈ decl.lines) :
    IsComment line ∨ IsCode symbols (externalStems items library) line := by
  refine (Declaration.isCode_of_mem_lines (declarations_sound hsymbols hdecl) h).imp_left ?_
  rintro ⟨isDoc, text, rfl⟩
  rw [List.mem_singleton.mp h]
  refine .append ?_ text
  cases isDoc <;> decide

end Symbols

/-- A line of an import is made of its owner and its names. -/
theorem importLine_isCode {symbols stems : List String} {i : Import}
    (h : ∀ text ∈ i.owner :: i.names, text ∈ symbols) :
    IsCode symbols stems (importLine i) := by
  have howner : IsCode symbols stems i.owner := .symbol (h _ List.mem_cons_self)
  have hnames : ∀ name ∈ i.names, IsCode symbols stems name := fun name hname =>
    .symbol (h name (List.mem_cons_of_mem _ hname))
  unfold importLine
  split
  · rename_i name hname
    rw [hname] at hnames
    refine .after (.between (.before ?_ howner) ?_ (hnames name List.mem_cons_self)) ?_ <;>
      simp [ownTexts]
  · refine .after (.between (.before ?_ howner) ?_ (.intercalate hnames)) ?_ <;> simp [ownTexts]

theorem headLines_cases {w : Wrapper} {symbols stems : List String} {line : String}
    (h : line ∈ w.headLines) : IsComment line ∨ IsCode symbols stems line := by
  simp only [headLines, List.mem_cons, List.not_mem_nil, or_false] at h
  rcases h with rfl | rfl | rfl | rfl | rfl
  · refine .inl (.append (.append ?_ _) _)
    decide
  · left
    decide
  · refine .inl (.append ?_ _)
    decide
  · exact .inr (.own (by simp [ownTexts]))
  · exact .inr .empty

/-- A line of a wrapper is at its head, imports names or belongs to a declaration, or it is
empty. -/
theorem mem_lines_cases {w : Wrapper} {line : String} (h : line ∈ w.lines) :
    line ∈ w.headLines ∨ (∃ i ∈ w.imports, line = importLine i) ∨
      (∃ decl ∈ w.declarations, line ∈ decl.lines) ∨ line = "" := by
  rcases List.mem_append.mp h with h | h
  · rcases List.mem_append.mp h with h | h
    · exact .inl h
    · unfold importLines at h
      split at h
      · cases h
      · rcases List.mem_append.mp h with h | h
        · obtain ⟨i, hi, rfl⟩ := List.mem_map.mp h
          exact .inr (.inl ⟨i, hi, rfl⟩)
        · exact .inr (.inr (.inr (List.mem_singleton.mp h)))
  · obtain ⟨decls, hdecls, h⟩ := List.mem_flatMap.mp h
    rcases List.mem_append.mp h with h | h
    · obtain ⟨decl, hdecl, h⟩ := List.mem_flatMap.mp h
      exact .inr (.inr (.inl ⟨decl, List.mem_flatten.mpr ⟨decls, hdecls, hdecl⟩, h⟩))
    · exact .inr (.inr (.inr (List.mem_singleton.mp h)))

/-- Every line of a wrapper is a comment or code. -/
theorem line_cases {line : String} (h : line ∈ (ofItems library items known source).lines) :
    IsComment line ∨
      IsCode (ofItems library items known source).importTexts (externalStems items library)
        line := by
  rcases mem_lines_cases h with h | ⟨i, hi, rfl⟩ | ⟨decl, hdecl, h⟩ | rfl
  · exact headLines_cases h
  · exact .inr (importLine_isCode fun text htext => List.mem_flatMap.mpr ⟨i, hi, htext⟩)
  · exact declaration_line_cases (importedNames_subset _) hdecl h
  · exact .inr .empty

/-- Every path in a wrapper leads to the wrapper of one of its externals, and its lines are
comments, or code made of imported texts, identifiers, literals and these paths; in declarations the
imported texts are names of known symbols.  If no path can be read in such a name, there are no
other paths in the texts of types either.  The externals are the libraries, other than its own, that
its items mention at any place and at any depth. -/
theorem sibling_paths_reported (library : Identity) (items : Items) (known : Symbols)
    (source : Option Path) :
    let w := ofItems library items known source
    let externals := items.externals library
    let stems := externals.map Identity.wrapperStem
    (∀ path ∈ w.paths, ∃ other ∈ externals, ∃ ident, path = .sibling other.wrapperStem ident) ∧
      (∀ line ∈ w.lines, IsComment line ∨ IsCode w.importTexts stems line) ∧
      (∀ decl ∈ w.declarations, ∀ line ∈ decl.lines,
        IsComment line ∨ IsCode w.importedNames stems line) ∧
      ((∀ name, known.contains name → PathsLead [] name.toList) →
        ∀ decl ∈ w.declarations, ∀ type ∈ decl.types, PathsLead stems type.text.toList) ∧
      (∀ other, other ∈ externals ↔
        other ≠ library ∧
          ∃ item ∈ items.values, ∃ type, item.Holds type ∧ type.Mentions other) ∧
      library ∉ externals := by
  intro w externals stems
  refine ⟨fun path hpath => ?_, fun line hline => line_cases hline,
    fun decl hdecl line hline => declaration_line_cases (List.Subset.refl _) hdecl hline,
    fun hknown decl hdecl type htype => pathsLead_externals hdecl htype hknown,
    fun other => Items.mem_externals_iff, items.own_not_mem_externals library⟩
  obtain ⟨other, hother, ident, -, heq⟩ := paths_reported hpath
  exact ⟨other, hother, ident, heq⟩

/-- Two interfaces that mention three libraries: as a base and in a result, inside a safe array,
and in a method of a dispatch interface. -/
def scattered (first second third : Identity) : Items :=
  Table.ofList
    [("IRound", .interface "IRound" none (some (.external first "IShape"))
        [⟨"Fill", .func, none, [⟨"colors", .safeArray (.external second "Color"), .into, false⟩],
          .array (.external first "Edge") 4⟩]),
      ("DRound", .dispInterface "DRound" none
        [⟨"Hide", .func, some 1, [], .pointer (.external third "State")⟩])]

/-- Only the first of them is the target of paths, and all three are reported. -/
theorem sibling_paths_scattered :
    let library : Identity := ⟨⟨10#128⟩, 1, 0, 0⟩
    let first : Identity := ⟨⟨11#128⟩, 1, 0, 0⟩
    let second : Identity := ⟨⟨12#128⟩, 1, 0, 0⟩
    let third : Identity := ⟨⟨13#128⟩, 1, 0, 0⟩
    let items := scattered first second third
    let w := ofItems library items .standard none
    w.paths = [.sibling first.wrapperStem "IShape_Vtbl", .sibling first.wrapperStem "Edge"] ∧
      items.externals library = [first, second, third] ∧
      (∀ path ∈ w.paths, ∃ other ∈ [first, second, third], ∃ ident,
        path = .sibling other.wrapperStem ident) ∧
      ∀ decl ∈ w.declarations, ∀ type ∈ decl.types,
        PathsLead ([first, second, third].map Identity.wrapperStem) type.text.toList := by
  intro library first second third items w
  have hexternals : items.externals library = [first, second, third] := by decide
  have hidents : ∀ name ∈ Symbols.standard.keys, IsIdentifier name := by decide
  have hknown (name : String) (h : Symbols.standard.contains name) : PathsLead [] name.toList :=
    .of_isIdentifier (hidents name (Table.contains_iff.mp h))
  obtain ⟨hpaths, -, -, htypes, -⟩ := sibling_paths_reported library items .standard none
  rw [hexternals] at hpaths htypes
  exact ⟨by decide, hexternals, hpaths, htypes hknown⟩

/-- The name of a known symbol may be a path: it is written as it is, and no library is reported. -/
theorem symbol_path_unreported :
    let library : Identity := ⟨⟨10#128⟩, 1, 0, 0⟩
    let items : Items := Table.ofList [("Y", .typeAlias "Y" (.named "super::evil::X"))]
    let known : Symbols := Table.ofList [("super::evil::X", "evil")]
    let w := ofItems library items known none
    items.externals library = [] ∧ "pub type Y = super::evil::X;" ∈ w.lines ∧
      ∃ decl ∈ w.declarations, ∃ type ∈ decl.types,
        ¬ PathsLead ((items.externals library).map Identity.wrapperStem) type.text.toList := by
  intro library items known w
  have hexternals : items.externals library = [] := by decide
  refine ⟨hexternals, by decide, .typeAlias "Y" (.name (.symbol "super::evil::X")),
    by decide, _, List.mem_singleton_self _, fun hleads => ?_⟩
  rw [hexternals] at hleads
  obtain ⟨stem, hstem, -⟩ := hleads [] "evil::X".toList (by decide)
  cases hstem

end Wrapper

end Typelib
