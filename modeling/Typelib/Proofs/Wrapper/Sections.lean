import Mathlib
import Typelib.Proofs.Naming.Assignment
import Typelib.Wrapper.Basic

/-!
# The sections of a wrapper

`Scope.Emits` lists the declarations that an item can give, one case for each place that
`declareItem` adds one; which names are taken at that moment is left open.  `Scope.Builds` says in
which steps a section comes about: a declaration of no name, the declaration of a name that was
assigned to the item beforehand, or one under a name that is free at that moment.
`builds_declareItem` is the one proof that opens the builders; a property of every declaration
follows by cases on `Emits`, and one of the names by induction on `Builds`.  `Scope.Writes` lists
the types in the declarations of an item in the same way (`Emits.writes`), and
`sections_forall₂` pairs the items with their sections.
-/

namespace Typelib

namespace Scope

variable (scope : Scope)

theorem mem_of_chosen {isSource : Bool} {implemented : List Implemented} {i : Implemented}
    (h : chosen isSource implemented = some i) : i ∈ implemented := by
  rcases Option.or_eq_some_iff.mp h with h | ⟨-, h⟩
  · exact List.mem_of_find?_eq_some h
  · exact List.mem_of_find?_eq_some h

/-! ## Declarations -/

/-- The declarations that an item can give. -/
inductive Emits : Item → Declaration → Prop
  | interfaceTitle {name iid base methods} :
      Emits (.interface name iid base methods) (.comment true ("Interface \x60" ++ name ++ "\x60."))
  | interfaceHandle {name iid base methods} :
      Emits (.interface name iid base methods)
        (.handle (scope.names.identOf name) scope.voidPointer)
  | interfaceGuid {name iid base methods} (taken : List String) :
      Emits (.interface name (some iid) base methods)
        (.guid
          (freeName taken ("IID" ++ "_" ++ scope.names.identOf name) (scope.names.identOf name))
          (scope.nameType "GUID") iid)
  | interfaceVtable {name iid base methods} :
      Emits (.interface name iid base methods)
        (.vtable (scope.names.vtableOf name) (scope.baseVtable base) scope.voidPointer
          (scope.nameType "HRESULT") (scope.slots methods))
  | dispatchTitle {name iid methods} :
      Emits (.dispInterface name iid methods)
        (.comment true ("Dispatch interface \x60" ++ name ++ "\x60."))
  | dispatchHandle {name iid methods} :
      Emits (.dispInterface name iid methods)
        (.handle (scope.names.identOf name) (scope.nameType "IDispatch"))
  | dispatchGuid {name iid methods} (taken : List String) :
      Emits (.dispInterface name (some iid) methods)
        (.guid
          (freeName taken ("IID" ++ "_" ++ scope.names.identOf name) (scope.names.identOf name))
          (scope.nameType "GUID") iid)
  | dispatchNumbers {name iid methods} :
      Emits (.dispInterface name iid methods)
        (.memberNumbers (scope.names.identOf name) (memberNumbers methods))
  | coClassTitle {name clsid implemented} :
      Emits (.coClass name clsid implemented) (.comment true ("Coclass \x60" ++ name ++ "\x60."))
  | coClassGuid {name clsid implemented} (taken : List String) :
      Emits (.coClass name (some clsid) implemented)
        (.guid
          (freeName taken ("CLSID" ++ "_" ++ scope.names.identOf name) (scope.names.identOf name))
          (scope.nameType "GUID") clsid)
  | coClassUnit {name clsid implemented} :
      Emits (.coClass name clsid implemented) (.unit (scope.names.identOf name))
  | coClassLabels {name clsid implemented} :
      Emits (.coClass name clsid implemented)
        (.labels (scope.names.identOf name) (implemented.map fun i => i.interface.label))
  | coClassChosen {name clsid implemented} (taken : List String) {ending : String}
      (hending : ending ∈ ["Default", "Source"]) {isSource : Bool} {i : Implemented}
      (hchosen : chosen isSource implemented = some i) :
      Emits (.coClass name clsid implemented)
        (.typeAlias
          (freeName taken (scope.names.identOf name ++ "_" ++ ending) (scope.names.identOf name))
          (scope.typeExpr i.interface))
  | enumerationTitle {name members} :
      Emits (.enumeration name members) (.comment true ("Enumeration \x60" ++ name ++ "\x60."))
  | enumerationAlias {name members} :
      Emits (.enumeration name members)
        (.typeAlias (scope.names.identOf name)
          (.primitive (if members.all fun m => fitsInt32 m.2 then .i32 else .i64)))
  | enumerationMember {name members} (taken : List String) {member : String × Int64}
      (hmember : member ∈ members) :
      Emits (.enumeration name members)
        (.member (freeName taken (identifier member.1) (scope.names.identOf name))
          (scope.names.identOf name) member.2)
  | struct {name fields} :
      Emits (.struct name fields)
        (.record (scope.names.identOf name) (scope.recordFields fields))
  | typeAlias {name target} :
      Emits (.typeAlias name target)
        (.typeAlias (scope.names.identOf name) (scope.typeExpr target))
  | constants {name values} :
      Emits (.constants name values)
        (.constants (scope.names.identOf name) (moduleConstants values))
  | unsupportedTitle {name construct} :
      Emits (.unsupported name construct)
        (.comment true ("Unsupported \x60" ++ construct ++ "\x60 declaration."))
  | unsupportedHollow {name construct} :
      Emits (.unsupported name construct) (.hollow (scope.names.identOf name))

/-! ## Steps -/

/-- The steps in which the declarations of an item come about; `given` are the assigned names that
have been declared so far. -/
inductive Builds (item : Item) (taken : List String) : List String → Declared → Prop
  | start : Builds item taken [] (.start taken)
  | quiet {given : List String} {d : Declared} {decl : Declaration} (hemits : scope.Emits item decl)
      (htypes : decl.typeNames = []) (hvalues : decl.valueNames = [])
      (rest : Builds item taken given d) : Builds item taken given (d.add decl)
  | assigned {given : List String} {d : Declared} {decl : Declaration} {name : String}
      (hemits : scope.Emits item decl) (htypes : decl.typeNames = [name])
      (hvalues : decl.valueNames.Sublist [name]) (rest : Builds item taken given d) :
      Builds item taken (given ++ [name]) (d.add decl)
  | reserved {given : List String} {d : Declared} {decl : String → Declaration}
      {preferred owner : String}
      (hemits : ∀ taken, scope.Emits item (decl (freeName taken preferred owner)))
      (htypes : ∀ name, (decl name).typeNames.Sublist [name])
      (hvalues : ∀ name, (decl name).valueNames.Sublist [name])
      (halias : ∀ name, (decl name).typeNames ⊆ (decl name).aliasName?.toList)
      (rest : Builds item taken given d) : Builds item taken given (d.reserve preferred owner decl)

variable {scope} {item : Item} {taken given : List String} {d : Declared}

theorem Builds.guid (kind ident : String) (guid : Option Guid)
    (rest : scope.Builds item taken given d)
    (hemits : ∀ value, guid = some value → ∀ taken, scope.Emits item
      (.guid (freeName taken (kind ++ "_" ++ ident) ident) (scope.nameType "GUID") value)) :
    scope.Builds item taken given (scope.withGuid kind ident guid d) := by
  cases guid with
  | none => exact rest
  | some value =>
    show scope.Builds item taken given
      (d.reserve _ _ fun name => .guid name (scope.nameType "GUID") value)
    refine .reserved (hemits value rfl) ?_ ?_ ?_ rest <;> simp [Declaration.typeNames,
      Declaration.valueNames]

theorem Builds.chosen (ident ending : String) (choice : Option Implemented)
    (rest : scope.Builds item taken given d)
    (hemits : ∀ i, choice = some i → ∀ taken, scope.Emits item
      (.typeAlias (freeName taken (ident ++ "_" ++ ending) ident)
        (scope.typeExpr i.interface))) :
    scope.Builds item taken given (scope.withChosen ident ending choice d) := by
  cases choice with
  | none => exact rest
  | some i =>
    show scope.Builds item taken given
      (d.reserve _ _ fun name => .typeAlias name (scope.typeExpr i.interface))
    refine .reserved (hemits i rfl) ?_ ?_ ?_ rest <;> simp [Declaration.typeNames,
      Declaration.valueNames, Declaration.aliasName?]

theorem Builds.members (ident : String) (members : List (String × Int64))
    (rest : scope.Builds item taken given d)
    (hemits : ∀ m ∈ members, ∀ taken, scope.Emits item
      (.member (freeName taken (identifier m.1) ident) ident m.2)) :
    scope.Builds item taken given (members.foldl
      (fun d m => d.reserve (identifier m.1) ident fun constant => .member constant ident m.2)
      d) := by
  induction members generalizing d with
  | nil => exact rest
  | cons m others ih =>
    refine ih ?_ fun other hother => hemits other (List.mem_cons_of_mem m hother)
    refine .reserved (hemits m List.mem_cons_self) ?_ ?_ ?_ rest <;> simp [Declaration.typeNames,
      Declaration.valueNames]

/-- The declarations of an item come about in these steps, and its names are the assigned ones
among them. -/
theorem builds_declareItem (scope : Scope) (item : Item) (taken : List String) :
    scope.Builds item taken (scope.names.namesOf item) (scope.declareItem item (.start taken)) := by
  have hstart : scope.Builds item taken [] (.start taken) := .start
  cases item with
  | interface name iid base methods =>
    have htitle := hstart.quiet .interfaceTitle rfl rfl
    have hhandle := htitle.assigned .interfaceHandle rfl (List.Sublist.refl _)
    have hguid := hhandle.guid "IID" (scope.names.identOf name) iid fun value hvalue taken =>
      hvalue ▸ .interfaceGuid taken
    exact hguid.assigned .interfaceVtable rfl (List.nil_sublist _)
  | dispInterface name iid methods =>
    have htitle := hstart.quiet .dispatchTitle rfl rfl
    have hhandle := htitle.assigned .dispatchHandle rfl (List.Sublist.refl _)
    have hguid := hhandle.guid "IID" (scope.names.identOf name) iid fun value hvalue taken =>
      hvalue ▸ .dispatchGuid taken
    simp only [declareItem, declareDispInterface]
    split
    · exact hguid
    · rename_i hnumbers
      exact hguid.quiet .dispatchNumbers rfl rfl
  | coClass name clsid implemented =>
    have htitle := hstart.quiet .coClassTitle rfl rfl
    have hguid := htitle.guid "CLSID" (scope.names.identOf name) clsid fun value hvalue taken =>
      hvalue ▸ .coClassGuid taken
    have hunit := hguid.assigned .coClassUnit rfl (List.Sublist.refl _)
    simp only [declareItem, declareCoClass]
    refine ((?labels : scope.Builds _ taken _ _).chosen _ "Default" _ ?default).chosen _ "Source" _
      ?source
    case labels =>
      split
      · exact hunit
      · exact hunit.quiet .coClassLabels rfl rfl
    case default => exact fun i hi taken => .coClassChosen taken (by simp) hi
    case source => exact fun i hi taken => .coClassChosen taken (by simp) hi
  | enumeration name members =>
    have htitle := hstart.quiet .enumerationTitle rfl rfl
    have halias := htitle.assigned .enumerationAlias rfl (List.nil_sublist _)
    exact halias.members _ members fun m hm taken => .enumerationMember taken hm
  | struct name fields => exact hstart.assigned .struct rfl (List.nil_sublist _)
  | typeAlias name target => exact hstart.assigned .typeAlias rfl (List.nil_sublist _)
  | constants name values => exact hstart.assigned .constants rfl (List.nil_sublist _)
  | unsupported name construct =>
    have htitle := hstart.quiet .unsupportedTitle rfl rfl
    exact htitle.assigned .unsupportedHollow rfl (List.nil_sublist _)

/-- Every declaration of an item is one of those that it can give. -/
theorem Builds.emits (h : scope.Builds item taken given d) {decl : Declaration}
    (hdecl : decl ∈ d.declarations) : scope.Emits item decl := by
  induction h with
  | start => simp [Declared.start] at hdecl
  | quiet hemits _ _ _ ih | assigned hemits _ _ _ ih =>
    rcases List.mem_append.mp hdecl with hdecl | hdecl
    · exact ih hdecl
    · rwa [List.mem_singleton.mp hdecl]
  | reserved hemits _ _ _ _ ih =>
    rcases List.mem_append.mp hdecl with hdecl | hdecl
    · exact ih hdecl
    · rw [List.mem_singleton.mp hdecl]
      exact hemits _

/-! ## Sections -/

theorem declare_known {owner : String} (h : scope.known.get? item.name = some owner)
    (taken : List String) :
    scope.declare item taken =
      ⟨[.comment false
        ("\x60" ++ item.name ++ "\x60 is provided by " ++ owner ++ ".")], taken⟩ := by
  simp [declare, h, Declared.start, Declared.add]

theorem declare_novel (scope : Scope) (h : scope.known.contains item.name = false)
    (taken : List String) :
    scope.declare item taken = scope.declareItem item (.start taken) := by
  have hnone : scope.known.get? item.name = none := by simpa [Table.contains] using h
  simp only [declare, hnone]

/-- A declaration in the section of an item is a comment that mentions a known symbol, or one that
the item can give. -/
theorem mem_declare {decl : Declaration} (h : decl ∈ (scope.declare item taken).declarations) :
    (∃ owner, scope.known.get? item.name = some owner ∧
      decl = .comment false ("\x60" ++ item.name ++ "\x60 is provided by " ++ owner ++ ".")) ∨
    (scope.known.contains item.name = false ∧ scope.Emits item decl) := by
  cases howner : scope.known.get? item.name with
  | some owner =>
    rw [declare_known howner, List.mem_singleton] at h
    exact .inl ⟨owner, rfl, h⟩
  | none =>
    have hnovel : scope.known.contains item.name = false := by simp [Table.contains, howner]
    rw [declare_novel scope hnovel] at h
    exact .inr ⟨hnovel, (builds_declareItem scope item taken).emits h⟩

theorem Builds.keeps (h : scope.Builds item taken given d) : taken ⊆ d.taken := by
  induction h with
  | start => exact List.Subset.refl _
  | quiet _ _ _ _ ih | assigned _ _ _ _ ih => exact ih
  | reserved _ _ _ _ _ ih => exact fun name hname => List.mem_cons_of_mem _ (ih hname)

/-- No name becomes free again. -/
theorem declare_keeps (scope : Scope) (item : Item) (taken : List String) :
    taken ⊆ (scope.declare item taken).taken := by
  cases howner : scope.known.get? item.name with
  | some owner =>
    rw [declare_known howner]
    exact List.Subset.refl _
  | none =>
    rw [declare_novel scope (by simp [Table.contains, howner])]
    exact (builds_declareItem scope item taken).keeps

/-- Every item has its section. -/
theorem sections_forall₂ (scope : Scope) (taken : List String) (items : List Item) :
    List.Forall₂ (fun item decls => ∃ before, taken ⊆ before ∧
      decls = (scope.declare item before).declarations) items (scope.sections taken items) := by
  induction items generalizing taken with
  | nil => exact .nil
  | cons item rest ih =>
    refine .cons ⟨taken, List.Subset.refl _, rfl⟩ ?_
    refine (ih (scope.declare item taken).taken).imp fun other decls hsection => ?_
    obtain ⟨before, hkeeps, heq⟩ := hsection
    exact ⟨before, fun name hname => hkeeps (declare_keeps scope item taken hname), heq⟩

/-- A declaration of some sections is one of an item among them. -/
theorem mem_sections {items : List Item} {decl : Declaration}
    (h : decl ∈ (scope.sections taken items).flatten) :
    ∃ item ∈ items, ∃ before, taken ⊆ before ∧ decl ∈ (scope.declare item before).declarations := by
  induction items generalizing taken with
  | nil => simp [sections] at h
  | cons item rest ih =>
    rcases List.mem_append.mp h with h | h
    · exact ⟨item, List.mem_cons_self, taken, List.Subset.refl _, h⟩
    · obtain ⟨other, hother, before, hkeeps, hdecl⟩ := ih h
      refine ⟨other, List.mem_cons_of_mem item hother, before, fun name hname => ?_, hdecl⟩
      exact hkeeps (declare_keeps scope item taken hname)

/-- The declarations of an item are among those of the sections. -/
theorem exists_section {items : List Item} (h : item ∈ items) (taken : List String) :
    ∃ before, taken ⊆ before ∧
      (scope.declare item before).declarations ⊆ (scope.sections taken items).flatten := by
  induction items generalizing taken with
  | nil => cases h
  | cons first rest ih =>
    rcases List.mem_cons.mp h with rfl | h
    · exact ⟨taken, List.Subset.refl _, List.subset_append_left _ _⟩
    · obtain ⟨before, hkeeps, hsection⟩ := ih h (scope.declare first taken).taken
      refine ⟨before, fun name hname => hkeeps (declare_keeps scope first taken hname), ?_⟩
      exact fun decl hdecl => List.mem_append_right _ (hsection hdecl)

/-! ## Types -/

variable (scope) in
/-- The types in the declarations of an item: those of the runtime support, numbers, the types the
item names itself, the base of its method structure, and pointers to such types. -/
inductive Writes (item : Item) : TypeExpr → Prop
  | support {name : String} (hname : name ∈ ["c_void", "GUID", "HRESULT", "IDispatch"]) :
      Writes item (scope.nameType name)
  | primitive (type : Primitive) : Writes item (.primitive type)
  | value {type : TypeRef} (htype : type ∈ item.types) : Writes item (scope.typeExpr type)
  | base {name : String} {iid : Option Guid} {base : Option TypeRef} {methods : List Method}
      (hitem : item = .interface name iid base methods) : Writes item (scope.baseVtable base)
  | pointer {type : TypeExpr} (h : Writes item type) : Writes item (.pointer type)

theorem Writes.voidPointer : scope.Writes item scope.voidPointer :=
  .pointer (.support (by simp))

theorem Writes.param {type : TypeRef} (htype : type ∈ item.types) (direction : Direction) :
    scope.Writes item (scope.paramType type direction) := by
  cases direction with
  | into => exact .value htype
  | out | inOut => exact .pointer (.value htype)

/-! ### Bare names

What holds of every name that is looked up as a type or as a method structure holds of every bare
name in a type. -/

section

variable {P : NameRef → Prop}

theorem forall_names_typeExpr (hrefer : ∀ name, P (scope.refer name)) (type : TypeRef) :
    ∀ ref ∈ (scope.typeExpr type).names, P ref := by
  have hname (name : String) : ∀ ref ∈ (scope.nameType name).names, P ref := by
    intro ref href
    obtain rfl := List.mem_singleton.mp href
    exact hrefer name
  fun_induction Scope.typeExpr with
  | case1 type =>
    cases type <;> first
      | exact hname _
      | simp [builtinType, TypeExpr.names]
  | case2 => exact hname "c_void"
  | case3 target _ ih => exact ih
  | case4 element length ih => exact ih
  | case5 => exact hname "SAFEARRAY"
  | case6 name => exact hname name
  | case7 library name =>
    unfold externalType
    split
    · exact hname name
    · simp [TypeExpr.names]
  | case8 => exact hname "c_void"

theorem forall_names_baseVtable (hrefer : ∀ name, P (scope.refer name))
    (hvtable : ∀ name, P (scope.vtableRef name)) (base : Option TypeRef) :
    ∀ ref ∈ (scope.baseVtable base).names, P ref := by
  intro ref href
  unfold baseVtable at href
  split at href
  · obtain rfl := List.mem_singleton.mp href
    exact hrefer _
  · obtain rfl := List.mem_singleton.mp href
    exact hvtable _
  · split at href
    · obtain rfl := List.mem_singleton.mp href
      exact hvtable _
    · cases href
  · obtain rfl := List.mem_singleton.mp href
    exact hrefer _

theorem Writes.forall_names (hrefer : ∀ name, P (scope.refer name))
    (hvtable : ∀ name, P (scope.vtableRef name)) {type : TypeExpr} (h : scope.Writes item type) :
    ∀ ref ∈ type.names, P ref := by
  induction h with
  | support => exact forall_names_typeExpr hrefer (.named _)
  | primitive => simp [TypeExpr.names]
  | value => exact forall_names_typeExpr hrefer _
  | base => exact forall_names_baseVtable hrefer hvtable _
  | pointer _ ih => exact ih

end

/-! ### Types of declarations -/

/-- The slots of an interface write the types of its methods. -/
theorem Writes.slots {name : String} {iid : Option Guid} {base : Option TypeRef}
    {methods : List Method} {slot : Slot} (hslot : slot ∈ scope.slots methods)
    {param : String × TypeExpr} (hparam : param ∈ slot.allParams scope.voidPointer) :
    scope.Writes (.interface name iid base methods) param.2 := by
  rw [Scope.slots, ← List.map_uncurry_zip_eq_zipWith, List.mem_map] at hslot
  obtain ⟨⟨slotName, m⟩, hzip, rfl⟩ := hslot
  have hmethod : m ∈ methods := (List.of_mem_zip hzip).2
  have htypes {type : TypeRef} (htype : type ∈ m.types) :
      type ∈ (Item.interface name iid base methods).types :=
    List.mem_append_right _ (List.mem_flatMap.mpr ⟨m, hmethod, htype⟩)
  simp only [Slot.allParams, List.cons_append, List.mem_cons, List.mem_append] at hparam
  rcases hparam with rfl | hparam | hparam
  · exact .voidPointer
  · obtain ⟨⟨declared, index⟩, hdeclared, rfl⟩ := List.mem_map.mp hparam
    refine .param (htypes (List.mem_append_left _ ?_)) _
    exact List.mem_map_of_mem (List.fst_mem_of_mem_zipIdx hdeclared)
  · obtain ⟨type, htype, rfl⟩ := List.mem_map.mp hparam
    simp only [Function.uncurry, slot, Option.mem_toList] at htype
    split at htype
    · cases htype
    · obtain rfl := Option.some.inj htype
      exact .pointer (.value (htypes (List.mem_append_right _ List.mem_cons_self)))

/-- Every type in a declaration of an item is one of those listed. -/
theorem Emits.writes {decl : Declaration} (h : scope.Emits item decl) {type : TypeExpr}
    (htype : type ∈ decl.types) : scope.Writes item type := by
  cases h with
  | interfaceTitle | dispatchTitle | dispatchNumbers | coClassTitle | coClassUnit | coClassLabels
  | enumerationTitle | enumerationMember | constants | unsupportedTitle | unsupportedHollow =>
    simp [Declaration.types] at htype
  | interfaceHandle =>
    obtain rfl := List.mem_singleton.mp htype
    exact .voidPointer
  | interfaceGuid | dispatchGuid | coClassGuid | dispatchHandle =>
    obtain rfl := List.mem_singleton.mp htype
    exact .support (by simp)
  | interfaceVtable =>
    simp only [Declaration.types, List.cons_append, List.mem_cons, List.mem_append,
      List.mem_flatMap, List.mem_map, List.not_mem_nil, or_false] at htype
    rcases htype with rfl | ⟨slot, hslot, param, hparam, rfl⟩ | rfl | rfl
    · exact .base rfl
    · exact .slots hslot hparam
    · exact .voidPointer
    · exact .support (by simp)
  | coClassChosen taken hending hchosen =>
    obtain rfl := List.mem_singleton.mp htype
    exact .value (List.mem_map_of_mem (mem_of_chosen hchosen))
  | enumerationAlias =>
    obtain rfl := List.mem_singleton.mp htype
    exact .primitive _
  | struct =>
    obtain ⟨field, hfield, rfl⟩ := List.mem_map.mp htype
    obtain ⟨entry, hentry, rfl⟩ := List.mem_map.mp hfield
    obtain ⟨f, hf, rfl⟩ := List.mem_map.mp (firstByName_sublist.subset hentry)
    exact .value (List.mem_map_of_mem hf)
  | typeAlias =>
    obtain rfl := List.mem_singleton.mp htype
    exact .value List.mem_cons_self

end Scope

end Typelib
