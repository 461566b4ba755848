import Typelib.Proofs.Wrapper.Dependencies

/-!
# References of a library to itself

A library may refer to one of its own items as if it were one of another library, by its own
identity.  `Items.localized` puts a bare name in the place of each such reference.  The scope of
the localized items means the same by their types as the scope of the items does
(`Scope.typeExpr_localized`), so the declarations agree one by one, and the wrappers and their
externals are the same (`Wrapper.self_references_local`).  The one place where the shape of a type
is copied is the label of an interface that a coclass lists; there the references have to stand by
themselves (`Item.ListsDirectly`).
-/

namespace Typelib

/-! ## Localized items -/

namespace Table

variable {κ α β : Type} {t : Table κ α} {f : α → β}

/-- The table with a function applied to every value. -/
def mapValues (f : α → β) (t : Table κ α) : Table κ β :=
  ⟨t.entries.map fun entry => (entry.1, f entry.2), by
    rw [List.map_map]
    exact t.distinct⟩

theorem values_mapValues : (t.mapValues f).values = t.values.map f := by
  simp only [values, mapValues, List.map_map, Function.comp_def]

theorem get?_mapValues [DecidableEq κ] {key : κ} :
    (t.mapValues f).get? key = (t.get? key).map f := by
  have hfind (entries : List (κ × α)) :
      find key (entries.map fun entry => (entry.1, f entry.2)) = (find key entries).map f := by
    induction entries with
    | nil => rfl
    | cons entry rest ih =>
      obtain ⟨k, a⟩ := entry
      by_cases hk : k = key
      · simp only [List.map_cons, find, if_pos hk, Option.map_some]
      · simp only [List.map_cons, find, if_neg hk, ih]
  exact hfind t.entries

end Table

/-- The type with a bare name in the place of every reference to the library itself. -/
def TypeRef.localized (own : Identity) : TypeRef → TypeRef
  | .pointer target => .pointer (target.localized own)
  | .array element length => .array (element.localized own) length
  | .safeArray element => .safeArray (element.localized own)
  | .external library name => if library = own then .named name else .external library name
  | .builtin type => .builtin type
  | .named name => .named name
  | .unsupported description => .unsupported description

def Param.localized (own : Identity) (p : Param) : Param := { p with type := p.type.localized own }

def Method.localized (own : Identity) (m : Method) : Method :=
  { m with params := m.params.map (Param.localized own), returns := m.returns.localized own }

def Implemented.localized (own : Identity) (i : Implemented) : Implemented :=
  { i with interface := i.interface.localized own }

def Field.localized (own : Identity) (f : Field) : Field := { f with type := f.type.localized own }

/-- The item with a bare name in the place of every reference to the library itself. -/
def Item.localized (own : Identity) : Item → Item
  | .interface name iid base methods =>
    .interface name iid (base.map (TypeRef.localized own)) (methods.map (Method.localized own))
  | .dispInterface name iid methods => .dispInterface name iid (methods.map (Method.localized own))
  | .coClass name clsid implemented =>
    .coClass name clsid (implemented.map (Implemented.localized own))
  | .struct name fields => .struct name (fields.map (Field.localized own))
  | .typeAlias name target => .typeAlias name (target.localized own)
  | .enumeration name members => .enumeration name members
  | .constants name values => .constants name values
  | .unsupported name construct => .unsupported name construct

/-- The items, under the same names, with a bare name in the place of every reference to the
library itself. -/
def Items.localized (own : Identity) (items : Items) : Items := items.mapValues (Item.localized own)

/-- Whether a type is a reference by itself: an automation type or a name. -/
def TypeRef.IsDirect : TypeRef → Prop
  | .builtin _ | .named _ | .external .. => True
  | .pointer _ | .array .. | .safeArray _ | .unsupported _ => False

instance : DecidablePred TypeRef.IsDirect
  | .builtin _ | .named _ | .external .. => .isTrue trivial
  | .pointer _ | .array .. | .safeArray _ | .unsupported _ => .isFalse id

/-- Whether the interfaces that a coclass lists are references by themselves. -/
def Item.ListsDirectly : Item → Prop
  | .coClass _ _ implemented => ∀ i ∈ implemented, i.interface.IsDirect
  | _ => True

instance : DecidablePred Item.ListsDirectly
  | .coClass _ _ implemented => inferInstanceAs (Decidable (∀ i ∈ implemented, _))
  | .interface .. | .dispInterface .. | .enumeration .. | .struct .. | .typeAlias ..
  | .constants .. | .unsupported .. => .isTrue trivial

namespace TypeRef

variable {own : Identity} {type : TypeRef}

theorem localized_eq_builtin_iff {b : Builtin} :
    type.localized own = .builtin b ↔ type = .builtin b := by
  cases type with
  | external library name =>
    by_cases h : library = own <;> simp [localized, h]
  | _ => simp [localized]

/-- A reference that stands by itself keeps its label. -/
theorem label_localized (h : type.IsDirect) : (type.localized own).label = type.label := by
  cases type with
  | builtin _ | named _ => rfl
  | external library name =>
    by_cases hown : library = own
    · rw [localized, if_pos hown]
      rfl
    · rw [localized, if_neg hown]
  | pointer _ | array _ _ | safeArray _ | unsupported _ => exact absurd h id

/-- One that does not is labelled with its shape, and so is what it refers to. -/
example :
    let own : Identity := ⟨⟨10#128⟩, 1, 0, 0⟩
    let type : TypeRef := .pointer (.external own "IShape")
    (type.localized own).label ≠ type.label := by
  decide

/-- Only the library itself is mentioned no longer. -/
theorem libraries_localized (own : Identity) (type : TypeRef) :
    (type.localized own).libraries = type.libraries.filter (· ≠ own) := by
  induction type with
  | builtin _ | named _ | unsupported _ => rfl
  | pointer target ih => exact ih
  | array element length ih => exact ih
  | safeArray element ih => exact ih
  | external library name =>
    by_cases h : library = own <;> simp [localized, libraries, h]

end TypeRef

theorem Item.name_localized (own : Identity) (item : Item) :
    (item.localized own).name = item.name := by
  cases item <;> rfl

/-- The items claim the same identifiers. -/
theorem LocalNames.assign_localized (own : Identity) (items : Items) (known : Symbols) :
    assign (items.localized own) known = assign items known := by
  have hclaim (names : LocalNames) (item : Item) :
      claim known names (item.localized own) = claim known names item := by
    cases item <;> rfl
  rw [assign, assign, Items.localized, Table.values_mapValues, List.foldl_map]
  simp only [hclaim]

/-! ## The scope of localized items -/

namespace Scope

variable (scope : Scope)

/-- The scope of the localized items. -/
def localized : Scope := { scope with items := scope.items.localized scope.own }

theorem of_localized (own : Identity) (items : Items) (known : Symbols) :
    Scope.of own (items.localized own) known = (Scope.of own items known).localized := by
  rw [Scope.of, LocalNames.assign_localized]
  rfl

variable {scope}

theorem typeExpr_pointer {target : TypeRef} (h : target ≠ .builtin .void) :
    scope.typeExpr (.pointer target) = .pointer (scope.typeExpr target) := by
  cases target with
  | builtin type => cases type <;> first | rfl | exact absurd rfl h
  | _ => rfl

/-- A localized type means the same. -/
theorem typeExpr_localized (type : TypeRef) :
    scope.localized.typeExpr (type.localized scope.own) = scope.typeExpr type := by
  induction type with
  | builtin type => cases type <;> rfl
  | pointer target ih =>
    by_cases h : target = .builtin .void
    · rw [h]
      rfl
    · have hlocalized : target.localized scope.own ≠ .builtin .void :=
        fun heq => h (TypeRef.localized_eq_builtin_iff.mp heq)
      rw [TypeRef.localized, typeExpr_pointer hlocalized, typeExpr_pointer h, ih]
  | array element length ih =>
    rw [TypeRef.localized, typeExpr, typeExpr, ih]
  | safeArray _ | named _ | unsupported _ => rfl
  | external library name =>
    by_cases h : library = scope.own
    · rw [TypeRef.localized, if_pos h]
      exact (if_pos h).symm
    · rw [TypeRef.localized, if_neg h]
      rfl

theorem vtableRef_localized (name : String) :
    scope.localized.vtableRef name = scope.vtableRef name := by
  have hitem : scope.localized.items.get? name =
      (scope.items.get? name).map (Item.localized scope.own) := Table.get?_mapValues
  simp only [vtableRef, hitem]
  cases scope.items.get? name with
  | none => rfl
  | some item => cases item <;> rfl

theorem baseVtable_localized (base : Option TypeRef) :
    scope.localized.baseVtable (base.map (TypeRef.localized scope.own)) =
      scope.baseVtable base := by
  cases base with
  | none => rfl
  | some type =>
    cases type with
    | builtin type => cases type <;> rfl
    | pointer _ | array _ _ | safeArray _ | unsupported _ => rfl
    | named name =>
      show TypeExpr.name _ = TypeExpr.name _
      rw [vtableRef_localized]
    | external library name =>
      by_cases h : library = scope.own
      · rw [Option.map_some, TypeRef.localized, if_pos h]
        show TypeExpr.name _ = _
        rw [vtableRef_localized]
        exact (if_pos h).symm
      · rw [Option.map_some, TypeRef.localized, if_neg h]
        exact (if_neg h).trans (if_neg h).symm

/-! ### Declarations -/

theorem slot_localized (name : String) (m : Method) :
    scope.localized.slot name (m.localized scope.own) = scope.slot name m := by
  have hparam (type : TypeRef) (direction : Direction) :
      scope.localized.paramType (type.localized scope.own) direction =
        scope.paramType type direction := by
    cases direction <;> simp only [paramType, typeExpr_localized]
  have hvoid : (m.returns.localized scope.own = .void) = (m.returns = .void) :=
    propext TypeRef.localized_eq_builtin_iff
  simp only [slot, Method.localized, List.zipIdx_map, List.map_map, Function.comp_def,
    Prod.map_fst, Prod.map_snd, id_eq, Param.localized, hparam, hvoid, typeExpr_localized]

theorem slotNames_localized (own : Identity) (seen : List String) (methods : List Method) :
    slotNames seen (methods.map (Method.localized own)) = slotNames seen methods := by
  induction methods generalizing seen with
  | nil => rfl
  | cons m rest ih =>
    have hname : (m.localized own).slotName = m.slotName := rfl
    simp only [List.map_cons, slotNames, hname, ih]

theorem slots_localized (methods : List Method) :
    scope.localized.slots (methods.map (Method.localized scope.own)) = scope.slots methods := by
  simp only [slots, slotNames_localized, List.zipWith_map_right, slot_localized]

theorem memberNumbers_localized (own : Identity) (methods : List Method) :
    memberNumbers (methods.map (Method.localized own)) = memberNumbers methods := by
  rw [memberNumbers, List.filterMap_map]
  rfl

theorem recordFields_localized (fields : List Field) :
    scope.localized.recordFields (fields.map (Field.localized scope.own)) =
      scope.recordFields fields := by
  have hentries : (fields.map (Field.localized scope.own)).map
        (fun f => (identifier f.name, f.type)) =
      (fields.map fun f => (identifier f.name, f.type)).map
        (Prod.map id (TypeRef.localized scope.own)) := by
    simp only [List.map_map]
    rfl
  rw [recordFields, recordFields, hentries, ← firstByName_map, List.map_map]
  simp only [Function.comp_def, Prod.map_fst, Prod.map_snd, id_eq, typeExpr_localized]

theorem chosen_localized (own : Identity) (isSource : Bool) (implemented : List Implemented) :
    chosen isSource (implemented.map (Implemented.localized own)) =
      (chosen isSource implemented).map (Implemented.localized own) := by
  simp only [chosen, List.find?_map, Option.map_or]
  rfl

theorem withChosen_localized (ident ending : String) (choice : Option Implemented) (d : Declared) :
    scope.localized.withChosen ident ending (choice.map (Implemented.localized scope.own)) d =
      scope.withChosen ident ending choice d := by
  cases choice with
  | none => rfl
  | some i => simp only [Option.map_some, withChosen, Implemented.localized, typeExpr_localized]

/-- A localized item gives the same declarations. -/
theorem declareItem_localized {item : Item} (direct : item.ListsDirectly) (d : Declared) :
    scope.localized.declareItem (item.localized scope.own) d = scope.declareItem item d := by
  cases item with
  | interface name iid base methods =>
    simp only [declareItem, Item.localized, declareInterface, slots_localized, baseVtable_localized]
    rfl
  | dispInterface name iid methods =>
    simp only [declareItem, Item.localized, declareDispInterface, memberNumbers_localized]
    rfl
  | coClass name clsid implemented =>
    have hlabels : (implemented.map (Implemented.localized scope.own)).map
          (fun i => i.interface.label) = implemented.map fun i => i.interface.label := by
      rw [List.map_map]
      exact List.map_congr_left fun i hi => TypeRef.label_localized (direct i hi)
    simp only [declareItem, Item.localized, declareCoClass, hlabels, chosen_localized,
      withChosen_localized, List.map_eq_nil_iff]
    rfl
  | struct name fields =>
    simp only [declareItem, Item.localized, recordFields_localized]
    rfl
  | typeAlias name target =>
    simp only [declareItem, Item.localized, typeExpr_localized]
    rfl
  | enumeration _ _ | constants _ _ | unsupported _ _ => rfl

theorem sections_localized {items : List Item} (direct : ∀ item ∈ items, item.ListsDirectly)
    (taken : List String) :
    scope.localized.sections taken (items.map (Item.localized scope.own)) =
      scope.sections taken items := by
  induction items generalizing taken with
  | nil => rfl
  | cons item rest ih =>
    obtain ⟨hitem, hrest⟩ := List.forall_mem_cons.mp direct
    have hdeclare : scope.localized.declare (item.localized scope.own) taken =
        scope.declare item taken := by
      simp only [declare, Item.name_localized, declareItem_localized hitem]
      rfl
    simp only [List.map_cons, sections, hdeclare, ih hrest]

end Scope

/-! ## The wrapper of localized items -/

theorem Method.types_localized (own : Identity) (m : Method) :
    (m.localized own).types = m.types.map (TypeRef.localized own) := by
  simp only [types, localized, List.map_append, List.map_map, List.map_cons, List.map_nil]
  rfl

theorem Item.types_localized (own : Identity) (item : Item) :
    (item.localized own).types = item.types.map (TypeRef.localized own) := by
  cases item with
  | interface name iid base methods =>
    simp only [localized, types, List.flatMap_map, Method.types_localized, List.map_append,
      List.map_flatMap]
    cases base <;> rfl
  | dispInterface name iid methods =>
    simp only [localized, types, List.flatMap_map, Method.types_localized, List.map_flatMap]
  | coClass _ _ _ | struct _ _ =>
    simp only [localized, types, List.map_map]
    rfl
  | typeAlias _ _ | enumeration _ _ | constants _ _ | unsupported _ _ => rfl

/-- The libraries that the types of the items name are the same, but for the library itself. -/
theorem Items.libraries_localized (own : Identity) (items : Items) :
    (items.localized own).values.flatMap (fun item => item.types.flatMap TypeRef.libraries) =
      (items.values.flatMap fun item => item.types.flatMap TypeRef.libraries).filter
        (· ≠ own) := by
  simp only [Items.localized, Table.values_mapValues, List.flatMap_map, Item.types_localized,
    TypeRef.libraries_localized, List.filter_flatMap]

theorem Items.externals_localized (own : Identity) (items : Items) :
    (items.localized own).externals own = items.externals own := by
  simp only [Items.externals, Items.libraries_localized, List.filter_filter, Bool.and_self]

/-- Localized items do not mention the library itself. -/
theorem Items.not_mentions_localized (own : Identity) (items : Items) :
    ∀ item ∈ (items.localized own).values, ∀ type, item.Holds type → ¬type.Mentions own := by
  intro item hitem type hholds hmentions
  have hnamed : own ∈ (items.localized own).values.flatMap
      fun item => item.types.flatMap TypeRef.libraries := by
    refine List.mem_flatMap.mpr ⟨item, hitem, List.mem_flatMap.mpr ⟨type, ?_, ?_⟩⟩
    · exact Item.mem_types_iff.mpr hholds
    · exact TypeRef.mem_libraries_iff.mpr hmentions
  rw [Items.libraries_localized] at hnamed
  exact of_decide_eq_true (List.mem_filter.mp hnamed).2 rfl

namespace Wrapper

theorem ofItems_localized {items : Items} (direct : ∀ item ∈ items.values, item.ListsDirectly)
    (library : Identity) (known : Symbols) (source : Option Path) :
    ofItems library (items.localized library) known source =
      ofItems library items known source := by
  have hvalues : (items.localized library).values =
      items.values.map (Item.localized library) := Table.values_mapValues
  have hsections : (Scope.of library items known).localized.sections
        (Scope.of library items known).localized.names.taken
        (items.values.map (Item.localized library)) =
      (Scope.of library items known).sections (Scope.of library items known).names.taken
        items.values :=
    Scope.sections_localized direct _
  simp only [ofItems, Scope.of_localized, hvalues, hsections]
  rfl

/-- Where coclasses list their interfaces as references by themselves, the wrapper of a library and
its externals are the same when bare names take the place of all its references to itself. -/
theorem self_references_local {items : Items}
    (direct : ∀ item ∈ items.values, item.ListsDirectly) (library : Identity) (known : Symbols)
    (source : Option Path) :
    (∀ item ∈ (items.localized library).values, ∀ type, item.Holds type →
      ¬type.Mentions library) ∧
    (ofItems library (items.localized library) known source).text =
      (ofItems library items known source).text ∧
    (items.localized library).externals library = items.externals library := by
  refine ⟨items.not_mentions_localized library, ?_, items.externals_localized library⟩
  rw [ofItems_localized direct]

/-- Items that refer to each other, to a known symbol and to a name that nothing declares by the
identity of their own library, at all places where a type stands. -/
def introspective (own other : Identity) : Items :=
  Table.ofList
    [("IShape", .interface "IShape" (some ⟨1#128⟩) (some (.external own "IUnknown"))
        [⟨"Paint", .func, none, [⟨"fill", .pointer (.external own "Fill"), .out, false⟩],
          .array (.external own "Missing") 4⟩]),
      ("IRound", .interface "IRound" none (some (.external own "IShape")) []),
      ("DShape", .dispInterface "DShape" none
        [⟨"Show", .func, some 1, [], .safeArray (.external own "Fill")⟩]),
      ("Shape", .coClass "Shape" none
        [⟨.external own "IShape", true, false⟩, ⟨.external own "DShape", false, true⟩]),
      ("Fill", .struct "Fill" [⟨"color", .external other "Color"⟩, ⟨"next", .external own "Fill"⟩]),
      ("Paint", .typeAlias "Paint" (.external own "Fill"))]

theorem self_references_introspective :
    let own : Identity := ⟨⟨10#128⟩, 1, 0, 0⟩
    let other : Identity := ⟨⟨11#128⟩, 1, 0, 0⟩
    let items := introspective own other
    (∀ item ∈ items.values, item.ListsDirectly) ∧ items.localized own ≠ items ∧
      (ofItems own (items.localized own) .standard none).text =
        (ofItems own items .standard none).text ∧
      (items.localized own).externals own = [other] := by
  intro own other items
  have direct : ∀ item ∈ items.values, item.ListsDirectly := by decide
  obtain ⟨-, htext, hexternals⟩ := self_references_local direct own .standard none
  have hother : items.externals own = [other] := by decide
  exact ⟨direct, by decide, htext, hexternals.trans hother⟩

end Wrapper

end Typelib
