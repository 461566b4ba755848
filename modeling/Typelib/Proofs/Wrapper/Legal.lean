import Typelib.Proofs.Wrapper.Members
import Typelib.Proofs.Wrapper.OwnNames
import Typelib.Proofs.Wrapper.Siblings

/-!
# Names that may not be declared

Every name that a wrapper declares has the form of an identifier and is no keyword
(`Declaration.declared_isIdentifier`).  One such name may not be declared all the same, the
underscore alone, which is the identifier of a text that has nothing to be called by
(`identifier_eq_underscore_iff`).  A parameter is called by its place then; for all other names
`Wrapper.declared_legal_iff` says when a wrapper declares the underscore.
-/

namespace Typelib

/-! ## The underscore -/

/-- Whether a text has nothing to be called by: it is empty, or one character that is no letter and
no digit. -/
def IsNameless (text : String) : Prop :=
  text.toList = [] ∨ ∃ c, text.toList = [c] ∧ isLetterOrDigit c = false

theorem replaced_eq_underscore_iff {c : Char} :
    (if isIdentifierChar c then c else '_') = '_' ↔ isLetterOrDigit c = false := by
  by_cases hletter : isLetterOrDigit c
  · have hne : c ≠ '_' := by
      rintro rfl
      exact absurd hletter (by decide)
    simp [isIdentifierChar, hletter, hne]
  · simp [isIdentifierChar, hletter]

theorem withStart_eq_underscore_iff {c : Char} {rest : List Char} :
    withStart (c :: rest) = ['_'] ↔ c = '_' ∧ rest = [] := by
  by_cases hdigit : c.isDigit
  · have hne : c ≠ '_' := by
      rintro rfl
      exact absurd hdigit (by decide)
    simp [withStart, hdigit, hne]
  · simp [withStart, hdigit]

/-- The identifier of a text is the underscore alone exactly when the text is nameless. -/
theorem identifier_eq_underscore_iff {text : String} : identifier text = "_" ↔ IsNameless text := by
  have hstart : withStart (withUnderscores text.toList) = ['_'] ↔ IsNameless text := by
    unfold IsNameless
    cases text.toList with
    | nil => simp [withUnderscores, withStart]
    | cons c rest =>
      rw [withUnderscores, List.map_cons, withStart_eq_underscore_iff, replaced_eq_underscore_iff]
      simp [and_comm]
  rw [← hstart]
  unfold identifier withoutKeyword
  split
  · -- a keyword is not the underscore, and neither is what is made of it
    rename_i hkeyword
    have hwords : ∀ word ∈ keywords, word ++ "_" ≠ "_" ∧ word.toList ≠ ['_'] := by decide
    obtain ⟨hlonger, hother⟩ := hwords _ hkeyword
    rw [String.toList_ofList] at hother
    exact iff_of_false hlonger hother
  · rw [← String.toList_inj, String.toList_ofList]
    rfl

instance : DecidablePred IsNameless := fun _ => decidable_of_iff _ identifier_eq_underscore_iff

/-! ## Declared names are identifiers -/

theorem Declaration.declared_isIdentifier {d : Declaration}
    (h : ∀ ident ∈ d.idents, IsIdentifier ident) :
    ∀ name ∈ d.ownName?.toList ++ d.parts, IsIdentifier name := by
  have hfixed : IsIdentifier "base__" ∧ IsIdentifier "_opaque" ∧ IsIdentifier "INTERFACES" := by
    decide
  obtain ⟨hbase, hopaque, hlabels⟩ := hfixed
  cases d with
  | comment | handle | unit | record | typeAlias | guid | constants => exact h
  | hollow name =>
    exact List.forall_mem_cons.mpr
      ⟨h name List.mem_cons_self, List.forall_mem_singleton.mpr hopaque⟩
  | vtable name base object status slots =>
    refine List.forall_mem_cons.mpr
      ⟨h name List.mem_cons_self, List.forall_mem_cons.mpr ⟨hbase, fun slotName hslot => ?_⟩⟩
    obtain ⟨s, hs, rfl⟩ := List.mem_map.mp hslot
    exact h s.name (.tail _ (List.mem_flatMap.mpr ⟨s, hs, List.mem_cons_self⟩))
  | member name owner value => exact List.forall_mem_singleton.mpr (h name List.mem_cons_self)
  | memberNumbers owner values =>
    intro name hname
    obtain ⟨v, hv, rfl⟩ := List.mem_map.mp hname
    have hnumber : IsIdentifier ("DISPID" ++ "_" ++ v.1) :=
      IsIdentifier.joined (by decide) (h v.1 (.tail _ (List.mem_map_of_mem hv))).chars
    exact hnumber
  | labels owner values => exact List.forall_mem_singleton.mpr hlabels

/-! ## Parts -/

namespace Item

/-- The texts that the names of the parts of an item are made of.  The slots of accessors and the
member numbers have a word before the name and are left out. -/
def innerTexts : Item → List String
  | interface _ _ _ methods => (methods.filter fun m => m.kind = .func).map Method.name
  | struct _ fields => fields.map Field.name
  | constants _ values => values.map Constant.name
  | dispInterface .. | coClass .. | enumeration .. | typeAlias .. | unsupported .. => []

/-- The texts that the names of an item and of the members of an enumeration are made of. -/
def outerTexts : Item → List String
  | enumeration name members => name :: members.map Prod.fst
  | item => [item.name]

end Item

namespace Scope

variable {scope : Scope} {item : Item}

theorem underscore_mem_slotNames_iff {methods : List Method} :
    "_" ∈ slotNames [] methods ↔
      ∃ text ∈ (methods.filter fun m => m.kind = .func).map Method.name, IsNameless text := by
  have hslot (m : Method) : m.slotName = "_" ↔ m.kind = .func ∧ identifier m.name = "_" :=
    slotName_eq_iff (by decide)
  rw [mem_slotNames_iff IsMarked.not_underscore]
  simp [hslot, identifier_eq_underscore_iff, and_assoc]

/-- What is kept of members under their identifiers. -/
theorem underscore_mem_kept_iff {α β : Type} {members : List β} {text : β → String}
    {value : β → α} :
    "_" ∈ (firstByName [] (members.map fun b => (identifier (text b), value b))).map Prod.fst ↔
      ∃ t ∈ members.map text, IsNameless t := by
  rw [mem_names_firstByName]
  simp [identifier_eq_underscore_iff]

/-- A part that is called by the underscore alone is made of a nameless text. -/
theorem Emits.nameless {decl : Declaration} (h : scope.Emits item decl) (hpart : "_" ∈ decl.parts) :
    ∃ text ∈ item.innerTexts, IsNameless text := by
  cases h with
  | interfaceTitle | interfaceHandle | interfaceGuid | dispatchTitle | dispatchHandle
  | dispatchGuid | coClassTitle | coClassGuid | coClassUnit | coClassChosen | enumerationTitle
  | enumerationAlias | enumerationMember | typeAlias | unsupportedTitle =>
    exact absurd hpart List.not_mem_nil
  | interfaceVtable =>
    simp only [Declaration.parts, map_name_slots, List.mem_cons] at hpart
    exact underscore_mem_slotNames_iff.mp (hpart.resolve_left (by decide))
  | dispatchNumbers =>
    obtain ⟨v, -, hv⟩ := List.mem_map.mp hpart
    exact absurd (congrArg String.toList hv) (by simp)
  | coClassLabels => exact absurd hpart (by simp [Declaration.parts])
  | struct =>
    rw [Declaration.parts, recordFields_eq] at hpart
    exact underscore_mem_kept_iff.mp hpart
  | constants => exact underscore_mem_kept_iff.mp hpart
  | unsupportedHollow => exact absurd hpart (by simp [Declaration.parts])

end Scope

/-! ## The underscore as an own name -/

theorem Item.mem_outerTexts_iff {item : Item} {text : String} :
    text ∈ item.outerTexts ↔ text = item.name ∨
      ∃ name members, item = .enumeration name members ∧ ∃ m ∈ members, m.1 = text := by
  cases item <;> simp [outerTexts, name]

/-- A name that did not become longer was free. -/
theorem freeName_eq_self_of_length_le {taken : List String} {preferred owner : String}
    (h : (freeName taken preferred owner).length ≤ preferred.length) :
    freeName taken preferred owner = preferred := by
  by_cases htaken : preferred ∈ taken
  · have hlonger := length_le_nextFree taken (owner ++ "_" ++ preferred)
    have hname : freeName taken preferred owner = nextFree taken (owner ++ "_" ++ preferred) :=
      if_pos htaken
    have hunderscore : "_".length = 1 := rfl
    rw [hname] at h
    rw [String.length_append, String.length_append, hunderscore] at hlonger
    omega
  · exact if_neg htaken

theorem IsIdentifier.length_pos {name : String} (h : IsIdentifier name) : 1 ≤ name.length := by
  obtain ⟨c, rest, hlist, -⟩ := h.start
  rw [← String.length_toList, hlist]
  simp

/-- The underscore is reserved for nothing that is called differently. -/
theorem eq_underscore_of_freeName {taken : List String} {preferred owner : String}
    (hpreferred : 1 ≤ preferred.length) (h : freeName taken preferred owner = "_") :
    preferred = "_" := by
  have hlength : (freeName taken preferred owner).length ≤ preferred.length := by
    rw [h]
    exact hpreferred
  rw [← freeName_eq_self_of_length_le hlength, h]

namespace Scope

variable {scope : Scope} {item : Item}

/-- An own name of an item that is the underscore alone was assigned, or is made of a nameless
text. -/
theorem Emits.nameless_own {decl : Declaration} (h : scope.Emits item decl)
    (hown : decl.ownName? = some "_") :
    "_" ∈ scope.names.namesOf item ∨ ∃ text ∈ item.outerTexts, IsNameless text := by
  have hguid (taken : List String) (kind ident : String) (hkind : 1 ≤ kind.length) :
      freeName taken (kind ++ "_" ++ ident) ident ≠ "_" := by
    intro h
    have hunderscore : "_".length = 1 := rfl
    have hlength : (kind ++ "_" ++ ident).length = kind.length + 1 + ident.length := by
      rw [String.length_append, String.length_append, hunderscore]
    rw [eq_underscore_of_freeName (by omega) h, hunderscore] at hlength
    omega
  cases h with
  | interfaceTitle | dispatchTitle | dispatchNumbers | coClassTitle | coClassLabels
  | enumerationTitle | unsupportedTitle => cases hown
  | interfaceHandle | dispatchHandle | coClassUnit | enumerationAlias | struct | typeAlias
  | constants | unsupportedHollow =>
    exact .inl (LocalNames.mem_namesOf.mpr (.inl (Option.some.inj hown).symm))
  | interfaceVtable =>
    exact .inl (LocalNames.mem_namesOf.mpr (.inr ⟨rfl, (Option.some.inj hown).symm⟩))
  | interfaceGuid taken | dispatchGuid taken =>
    exact absurd (Option.some.inj hown) (hguid taken "IID" _ (by decide))
  | coClassGuid taken => exact absurd (Option.some.inj hown) (hguid taken "CLSID" _ (by decide))
  | @coClassChosen name _ _ taken _ hending =>
    have hmarked := freeName_isMarked hending taken (scope.names.identOf name)
      (scope.names.identOf name)
    rw [Option.some.inj hown] at hmarked
    exact absurd hmarked IsMarked.not_underscore
  | @enumerationMember name members taken member hmember =>
    have hident := eq_underscore_of_freeName (identifier_isIdentifier member.1).length_pos
      (Option.some.inj hown)
    exact .inr ⟨member.1, Item.mem_outerTexts_iff.mpr (.inr ⟨_, _, rfl, member, hmember, rfl⟩),
      identifier_eq_underscore_iff.mp hident⟩

end Scope

namespace Wrapper

section

variable {library : Identity} {items : Items} {known : Symbols} {source : Option Path}

/-- The underscore alone is an own name only if an item or a member of an enumeration is called by a
nameless text, or a name that nothing declares is the underscore. -/
theorem nameless_of_own (h : IsOwnName (ofItems library items known source).declarations "_") :
    (∃ item ∈ items.novel known, ∃ text ∈ item.outerTexts, IsNameless text) ∨
      .missing "_" ∈ (ofItems library items known source).writtenNames := by
  obtain ⟨decl, hdecl, hown⟩ := h
  rcases mem_declarations_ofItems.mp hdecl with hdecl | ⟨ident, hplaceholder, hdecl⟩
  · left
    obtain ⟨item, hvalue, before, -, hdecl⟩ := Scope.mem_sections hdecl
    rcases Scope.mem_declare hdecl with ⟨owner, -, rfl⟩ | ⟨hnovel, hemits⟩
    · cases hown
    · have hitem : item ∈ items.novel known := Items.mem_novel.mpr ⟨hvalue, hnovel⟩
      refine ⟨item, hitem, ?_⟩
      rcases hemits.nameless_own hown with hassigned | htext
      · have hplain := (LocalNames.namesOf_plain hitem hassigned).1
        have hident := hplain.resolve_right IsMarked.not_underscore
        exact ⟨item.name, Item.mem_outerTexts_iff.mpr (.inl rfl),
          identifier_eq_underscore_iff.mp hident.symm⟩
      · exact htext
  · right
    rw [writtenNames_ofItems]
    simp only [placeholder, List.mem_cons, List.not_mem_nil, or_false] at hdecl
    rcases hdecl with rfl | rfl
    · cases hown
    · exact Option.some.inj hown ▸ (mem_placeholders.mp hplaceholder).1

/-- If that is so, the underscore is no known symbol and the keys of the items are their names, it
is an own name. -/
theorem own_of_nameless (named : items.AreNamed) (hnovel : known.contains "_" = false)
    (h : (∃ item ∈ items.novel known, ∃ text ∈ item.outerTexts, IsNameless text) ∨
      .missing "_" ∈ (ofItems library items known source).writtenNames) :
    IsOwnName (ofItems library items known source).declarations "_" := by
  have htype (h : (∃ item ∈ items.novel known, identifier item.name = "_") ∨
      .missing "_" ∈ (ofItems library items known source).writtenNames) :
      IsOwnName (ofItems library items known source).declarations "_" :=
    isOwnName_iff.mpr (.inl ((mem_typeNames_iff named IsMarked.not_underscore).mpr ⟨hnovel, h⟩))
  rcases h with ⟨item, hmem, text, htext, hnameless⟩ | hmissing
  · have hident := identifier_eq_underscore_iff.mpr hnameless
    rcases Item.mem_outerTexts_iff.mp htext with rfl | ⟨name, members, rfl, m, hm, rfl⟩
    · exact htype (.inl ⟨item, hmem, hident⟩)
    · rcases member_declared named hmem hm with hknown | hown
      · rw [hident, hnovel] at hknown
        cases hknown
      · rwa [hident] at hown
  · exact htype (.inr hmissing)

/-- A part of a wrapper is called by the underscore alone exactly when it is made of a nameless
text. -/
theorem underscore_mem_parts_iff :
    (∃ decl ∈ (ofItems library items known source).declarations, "_" ∈ decl.parts) ↔
      ∃ item ∈ items.novel known, ∃ text ∈ item.innerTexts, IsNameless text := by
  constructor
  · rintro ⟨decl, hdecl, hpart⟩
    rcases declarations_cases hdecl with ⟨isDoc, text, rfl⟩ | ⟨item, hitem, hemits⟩ | ⟨ident, rfl⟩
    · cases hpart
    · exact ⟨item, hitem, hemits.nameless hpart⟩
    · exact absurd hpart (by simp [Declaration.parts])
  · rintro ⟨item, hitem, htexts⟩
    cases item with
    | interface name iid base methods =>
      refine ⟨_, methodStructure_mem_declarations hitem, List.mem_cons_of_mem _ ?_⟩
      rw [Scope.map_name_slots]
      exact Scope.underscore_mem_slotNames_iff.mpr htexts
    | struct name fields =>
      refine ⟨_, record_mem_declarations hitem, ?_⟩
      rw [Scope.record, Declaration.parts, Scope.recordFields_eq]
      exact Scope.underscore_mem_kept_iff.mpr htexts
    | constants name values =>
      exact ⟨_, constantModule_mem_declarations hitem, Scope.underscore_mem_kept_iff.mpr htexts⟩
    | dispInterface | coClass | enumeration | typeAlias | unsupported =>
      obtain ⟨text, htext, -⟩ := htexts
      cases htext

end

/-- Whether a wrapper has to call something by a nameless text: a field, a slot of a method that is
called as a function or a constant of a module; or, if the underscore is no known symbol, an item,
a member of an enumeration or a name that nothing declares. -/
def CallsNameless (w : Wrapper) (items : Items) (known : Symbols) : Prop :=
  (∃ item ∈ items.novel known, ∃ text ∈ item.innerTexts, IsNameless text) ∨
    known.contains "_" = false ∧
      ((∃ item ∈ items.novel known, ∃ text ∈ item.outerTexts, IsNameless text) ∨
        .missing "_" ∈ w.writtenNames)

/-- Every name that a wrapper declares is an identifier, and it may be declared unless something is
called by a nameless text.  Then it may not, if the keys of the items are their names: the
underscore alone is declared. -/
theorem declared_legal_iff (library : Identity) (items : Items) (known : Symbols)
    (source : Option Path) :
    let w := ofItems library items known source
    (∀ name ∈ w.declaredNames, IsIdentifier name) ∧
      ("_" ∈ w.declaredNames → w.CallsNameless items known) ∧
      (items.AreNamed → w.CallsNameless items known → "_" ∈ w.declaredNames) := by
  intro w
  have hnames {name : String} : name ∈ w.declaredNames ↔
      (∃ decl ∈ w.declarations, name ∈ decl.parts) ∨ IsOwnName w.declarations name := by
    rw [declaredNames_ofItems]
    simp only [List.mem_flatMap, List.mem_append, Option.mem_toList, IsOwnName]
    simp only [and_or_left, exists_or, or_comm]
    rfl
  refine ⟨fun name hname => ?_, fun hname => ?_, fun named hnameless => ?_⟩
  · rw [declaredNames_ofItems] at hname
    obtain ⟨decl, hdecl, hname⟩ := List.mem_flatMap.mp hname
    exact Declaration.declared_isIdentifier (idents_sound hdecl) name hname
  · rcases hnames.mp hname with hpart | hown
    · exact .inl (underscore_mem_parts_iff.mp hpart)
    · exact .inr ⟨not_known_of_isOwnName hown, nameless_of_own hown⟩
  · rcases hnameless with htexts | ⟨hnovel, htexts⟩
    · exact hnames.mpr (.inl (underscore_mem_parts_iff.mpr htexts))
    · exact hnames.mpr (.inr (own_of_nameless named hnovel htexts))

/-- Names of punctuation, keywords and names that start with digits or have letters of other
scripts, and nameless texts where a word is put before them. -/
def awkward : Items :=
  Table.ofList
    [("!?", .struct "!?" [⟨"fn", .builtin .i4⟩, ⟨"1x", .builtin .i4⟩, ⟨"Größe", .builtin .i4⟩]),
      ("IShape", .interface "IShape" (some ⟨1#128⟩) none
        [⟨"", .propGet, some 1, [⟨"", .builtin .i4, .into, false⟩], .builtin .i4⟩,
          ⟨"--", .func, none, [], .void⟩]),
      ("DShape", .dispInterface "DShape" none [⟨"", .func, some 1, [], .void⟩]),
      ("Fill", .enumeration "Fill" [("..", 0)]), ("Self", .constants "Self" [⟨"self", .int 1⟩])]

theorem declared_legal_awkward :
    let w := ofItems ⟨⟨10#128⟩, 1, 0, 0⟩ awkward .standard none
    w.declaredNames =
        ["__", "fn_", "_1x", "Gr__e", "IShape", "IID_IShape", "IShape_Vtbl", "base__", "get__",
          "__", "DShape", "DISPID__", "Fill", "Fill___", "Self_", "self_"] ∧
      ∀ name ∈ w.declaredNames, IsIdentifier name ∧ name ≠ "_" := by
  intro w
  obtain ⟨hidents, hunderscore, -⟩ :=
    declared_legal_iff ⟨⟨10#128⟩, 1, 0, 0⟩ awkward .standard none
  have hnone : ¬w.CallsNameless awkward .standard := by
    unfold CallsNameless
    decide +kernel
  have hnames : w.declaredNames =
      ["__", "fn_", "_1x", "Gr__e", "IShape", "IID_IShape", "IShape_Vtbl", "base__", "get__",
        "__", "DShape", "DISPID__", "Fill", "Fill___", "Self_", "self_"] := by
    rw [declaredNames_ofItems]
    decide
  refine ⟨hnames, fun name hname => ⟨hidents name hname, ?_⟩⟩
  rintro rfl
  exact hnone (hunderscore hname)

/-- A structure and a field that are called by punctuation. -/
def nameless : Items := Table.ofList [("?", .struct "?" [⟨"!", .builtin .i4⟩])]

/-- Both are called by the underscore alone. -/
theorem nameless_underscore :
    let w := ofItems ⟨⟨10#128⟩, 1, 0, 0⟩ nameless .standard none
    nameless.AreNamed ∧ w.declaredNames = ["_", "_"] ∧
      ¬∀ name ∈ w.declaredNames, IsIdentifier name ∧ name ≠ "_" := by
  unfold Items.AreNamed
  decide +kernel

end Wrapper

end Typelib
