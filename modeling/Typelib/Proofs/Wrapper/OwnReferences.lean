import Typelib.Proofs.Wrapper.Comments
import Typelib.Proofs.Wrapper.SelfReferences

/-!
# References to the items of a library

A wrapper declares an item in its section, by one declaration that stands for the item itself
(`Item.IntroducedBy`).  The identifier that was assigned to the item is the one it is declared
under; nothing else in the wrapper has it (`Wrapper.isIdentOf_identOf`), and the same goes for the
method structure of an interface (`Wrapper.isVtableOf_vtableOf`).  A reference is looked up by the
name of the item, and it is written as that identifier, however deep it stands in a type; an
interface on top of another one of the library has the method structure of that one as its base
(`Wrapper.references_hit`).
-/

namespace Typelib

/-! ## Declarations of items -/

/-- The declaration that stands for an item itself, under an identifier. -/
inductive Item.IntroducedBy : Item → String → Declaration → Prop
  | interface {name iid base methods ident} (content : TypeExpr) :
      IntroducedBy (.interface name iid base methods) ident (.handle ident content)
  | dispInterface {name iid methods ident} (content : TypeExpr) :
      IntroducedBy (.dispInterface name iid methods) ident (.handle ident content)
  | coClass {name clsid implemented ident} :
      IntroducedBy (.coClass name clsid implemented) ident (.unit ident)
  | enumeration {name members ident} (integers : Primitive) :
      IntroducedBy (.enumeration name members) ident (.typeAlias ident (.primitive integers))
  | struct {name fields ident} (written : List (String × TypeExpr)) :
      IntroducedBy (.struct name fields) ident (.record ident written)
  | typeAlias {name target ident} (written : TypeExpr) :
      IntroducedBy (.typeAlias name target) ident (.typeAlias ident written)
  | constants {name values ident} (written : List (String × ConstValue)) :
      IntroducedBy (.constants name values) ident (.constants ident written)
  | unsupported {name construct ident} :
      IntroducedBy (.unsupported name construct) ident (.hollow ident)

namespace Scope

variable {scope : Scope} {item : Item}

/-- Among the declarations of an item is one that stands for it, under its identifier. -/
theorem exists_introducedBy (scope : Scope) (item : Item) (d : Declared) :
    ∃ decl ∈ (scope.declareItem item d).declarations,
      item.IntroducedBy (scope.names.identOf item.name) decl := by
  cases item with
  | interface name iid base methods =>
    exact ⟨_, Declared.mem_add (Declared.mem_withGuid Declared.mem_add_self), .interface _⟩
  | dispInterface name iid methods =>
    refine ⟨_, ?_, .dispInterface (scope.nameType "IDispatch")⟩
    simp only [declareItem, declareDispInterface]
    split
    · exact Declared.mem_withGuid Declared.mem_add_self
    · exact Declared.mem_add (Declared.mem_withGuid Declared.mem_add_self)
  | coClass name clsid implemented =>
    refine ⟨_, Declared.mem_withChosen (Declared.mem_withChosen ?_), .coClass⟩
    split
    · exact Declared.mem_add_self
    · exact Declared.mem_add Declared.mem_add_self
  | enumeration name members =>
    exact ⟨_, Declared.mem_members Declared.mem_add_self, .enumeration _⟩
  | struct name fields => exact ⟨_, Declared.mem_add_self, .struct _⟩
  | typeAlias name target => exact ⟨_, Declared.mem_add_self, .typeAlias _⟩
  | constants name values => exact ⟨_, Declared.mem_add_self, .constants _⟩
  | unsupported name construct => exact ⟨_, Declared.mem_add_self, .unsupported⟩

/-- An item is declared under its own identifier only. -/
theorem Emits.eq_identOf {ident : String} {decl : Declaration} (h : scope.Emits item decl)
    (hintro : item.IntroducedBy ident decl) : ident = scope.names.identOf item.name := by
  cases h <;> cases hintro <;> rfl

end Scope

/-! ## The identifier of an item -/

/-- Different items have different identifiers. -/
theorem LocalNames.eq_of_identOf_eq {items : Items} {known : Symbols} {item other : Item}
    (named : items.AreNamed) (hitem : item ∈ items.novel known) (hother : other ∈ items.novel known)
    (h : (assign items known).identOf item.name = (assign items known).identOf other.name) :
    item = other :=
  eq_of_mem_namesOf named hitem hother (identOf_mem_namesOf _ item)
    (h ▸ identOf_mem_namesOf _ other)

namespace Wrapper

/-- Whether a wrapper declares the item of a name under an identifier. -/
def DeclaresItem (w : Wrapper) (items : Items) (name ident : String) : Prop :=
  ∃ item decls, items.get? name = some item ∧ w.IsSectionOf items name decls ∧
    ∃ decl ∈ decls, item.IntroducedBy ident decl

/-- Whether an identifier is that of an item: the wrapper declares the item under it and under no
other one, and nothing else that is declared or imported has it. -/
structure IsIdentOf (w : Wrapper) (items : Items) (name ident : String) : Prop where
  declares_iff : ∀ other, w.DeclaresItem items name other ↔ other = ident
  only : ∀ decl ∈ w.declarations, ident ∈ decl.typeNames →
    ∃ item, items.get? name = some item ∧ item.IntroducedBy ident decl
  notImported : ident ∉ w.importedNames

/-- Whether an identifier is that of the method structure of an interface: the wrapper declares the
structure under it and under no other one, and nothing else that is declared or imported has it. -/
structure IsVtableOf (w : Wrapper) (items : Items) (name ident : String) : Prop where
  declares_iff : ∀ other, w.DeclaresVtableFor items name other ↔ other = ident
  only : ∀ decl ∈ w.declarations, ident ∈ decl.typeNames →
    ∃ base object status slots, decl = .vtable ident base object status slots
  notImported : ident ∉ w.importedNames

/-- Whether the method structure that a wrapper declares for an interface has a type as its base. -/
def DeclaresBase (w : Wrapper) (items : Items) (name : String) (base : TypeExpr) : Prop :=
  ∃ decls, w.IsSectionOf items name decls ∧
    ∃ ident object status slots, .vtable ident base object status slots ∈ decls

variable {library : Identity} {items : Items} {known : Symbols} {source : Option Path}
  {item : Item}

/-- The declarations of a section are declarations of the wrapper. -/
theorem IsSectionOf.subset {w : Wrapper} {name : String} {decls : List Declaration}
    (h : w.IsSectionOf items name decls) : decls ⊆ w.declarations := fun _ hdecl =>
  List.mem_flatten.mpr ⟨decls, (List.of_mem_zip h).2, hdecl⟩

theorem declaresItem_iff (named : items.AreNamed) (hitem : item ∈ items.novel known)
    {ident : String} :
    (ofItems library items known source).DeclaresItem items item.name ident ↔
      ident = (LocalNames.assign items known).identOf item.name := by
  obtain ⟨hvalue, hnovel⟩ := Items.mem_novel.mp hitem
  constructor
  · rintro ⟨other, decls, hother, hsection, decl, hdecl, hintro⟩
    obtain ⟨declared, before, hdeclared, -, rfl⟩ := hsection.declares
    rw [named.get?_name hvalue] at hother hdeclared
    cases hother
    cases hdeclared
    rcases Scope.mem_declare hdecl with ⟨owner, -, rfl⟩ | ⟨-, hemits⟩
    · cases hintro
    · exact hemits.eq_identOf hintro
  · rintro rfl
    obtain ⟨before, hsection⟩ := exists_isSectionOf named hvalue library known source
    rw [Scope.declare_novel _ hnovel] at hsection
    obtain ⟨decl, hdecl, hintro⟩ :=
      (Scope.of library items known).exists_introducedBy item (.start before)
    exact ⟨item, _, named.get?_name hvalue, hsection, decl, hdecl, hintro⟩

theorem declaresVtableFor_iff (named : items.AreNamed) (hitem : item ∈ items.novel known)
    (hinterface : item.isInterface) {ident : String} :
    (ofItems library items known source).DeclaresVtableFor items item.name ident ↔
      ident = (LocalNames.assign items known).vtableOf item.name := by
  constructor
  · exact fun h => (h.eq_vtableOf named).2
  · rintro rfl
    exact declaresVtableFor_vtableOf named hitem hinterface

/-- No import has a name of an item. -/
theorem notImported_of_mem_namesOf (named : items.AreNamed) (hitem : item ∈ items.novel known)
    {name : String} (hname : name ∈ (LocalNames.assign items known).namesOf item) :
    name ∉ (ofItems library items known source).importedNames := by
  intro himported
  have hknown := (mem_importedNames.mp himported).2
  rw [LocalNames.not_known_of_mem_namesOf named hitem hname] at hknown
  cases hknown

theorem isIdentOf_identOf (named : items.AreNamed) (hitem : item ∈ items.novel known) :
    (ofItems library items known source).IsIdentOf items item.name
      ((LocalNames.assign items known).identOf item.name) := by
  refine ⟨fun _ => declaresItem_iff named hitem, fun decl hdecl hident => ?_,
    notImported_of_mem_namesOf named hitem (LocalNames.identOf_mem_namesOf _ item)⟩
  have hdeclares : (ofItems library items known source).DeclaresItem items item.name
      ((LocalNames.assign items known).identOf item.name) := (declaresItem_iff named hitem).mpr rfl
  obtain ⟨declared, decls, hget, hsection, own, hown, hintro⟩ := hdeclares
  have hownIdent : (LocalNames.assign items known).identOf item.name ∈ own.typeNames := by
    cases hintro <;> exact List.mem_singleton_self _
  rw [eq_of_mem_typeNames named hdecl (hsection.subset hown) hident hownIdent]
  exact ⟨declared, hget, hintro⟩

theorem isVtableOf_vtableOf (named : items.AreNamed) (hitem : item ∈ items.novel known)
    (hinterface : item.isInterface) :
    (ofItems library items known source).IsVtableOf items item.name
      ((LocalNames.assign items known).vtableOf item.name) := by
  refine ⟨fun _ => declaresVtableFor_iff named hitem hinterface, fun decl hdecl hident => ?_,
    notImported_of_mem_namesOf named hitem (LocalNames.mem_namesOf.mpr (.inr ⟨hinterface, rfl⟩))⟩
  have hdeclares : (ofItems library items known source).DeclaresVtableFor items item.name
      ((LocalNames.assign items known).vtableOf item.name) :=
    declaresVtableFor_vtableOf named hitem hinterface
  obtain ⟨decls, hsection, base, object, status, slots, hown⟩ := hdeclares
  exact ⟨base, object, status, slots,
    eq_of_mem_typeNames named hdecl (hsection.subset hown) hident List.mem_cons_self⟩

/-- The method structure of an interface has the base that is written for the interface. -/
theorem declaresBase_iff (named : items.AreNamed) {name : String} {iid : Option Guid}
    {base : Option TypeRef} {methods : List Method}
    (hitem : items.get? name = some (.interface name iid base methods)) {type : TypeExpr} :
    (ofItems library items known source).DeclaresBase items name type ↔
      known.contains name = false ∧ type = (Scope.of library items known).baseVtable base := by
  obtain ⟨hvalue, -⟩ := named.of_get? hitem
  constructor
  · rintro ⟨decls, hsection, ident, object, status, slots, hdecl⟩
    obtain ⟨declared, before, hdeclared, -, rfl⟩ := hsection.declares
    rw [hitem, Option.some.injEq] at hdeclared
    subst hdeclared
    rcases Scope.mem_declare hdecl with ⟨owner, -, heq⟩ | ⟨hnovel, hemits⟩
    · cases heq
    · cases hemits
      exact ⟨hnovel, rfl⟩
  · rintro ⟨hnovel, rfl⟩
    obtain ⟨before, hsection⟩ := exists_isSectionOf named hvalue library known source
    have hname := (named.of_get? hitem).2
    rw [← hname] at hnovel ⊢
    rw [Scope.declare_novel _ hnovel] at hsection
    exact ⟨_, hsection, _, _, _, _, Declared.mem_add_self⟩

end Wrapper

/-! ## References -/

/-- A reference of a library to an item of its own, by the name or by its own identity too. -/
inductive TypeRef.IsOwn (library : Identity) (name : String) : TypeRef → Prop
  | named : IsOwn library name (.named name)
  | external : IsOwn library name (.external library name)

/-- A type inside pointers and arrays, the outermost of which comes first; an array is given by its
length. -/
def TypeRef.within (type : TypeRef) : List (Option UInt32) → TypeRef
  | [] => type
  | none :: rest => .pointer (type.within rest)
  | some length :: rest => .array (type.within rest) length

/-- A written type inside pointers and arrays. -/
def TypeExpr.within (type : TypeExpr) : List (Option UInt32) → TypeExpr
  | [] => type
  | none :: rest => .pointer (type.within rest)
  | some length :: rest => .array (type.within rest) length

theorem TypeExpr.names_within (type : TypeExpr) (layers : List (Option UInt32)) :
    (type.within layers).names = type.names := by
  induction layers with
  | nil => rfl
  | cons layer rest ih => cases layer <;> exact ih

namespace Scope

variable {scope : Scope} {name : String}

/-- A type is written in the same way inside pointers and arrays, unless it is void. -/
theorem typeExpr_within {type : TypeRef} (h : type ≠ .builtin .void)
    (layers : List (Option UInt32)) :
    scope.typeExpr (type.within layers) = (scope.typeExpr type).within layers := by
  induction layers with
  | nil => rfl
  | cons layer rest ih =>
    cases layer with
    | none =>
      have hinner : type.within rest ≠ .builtin .void := by
        rcases rest with _ | ⟨_ | length, rest⟩
        · exact h
        · exact nofun
        · exact nofun
      rw [TypeRef.within, typeExpr_pointer hinner, ih, TypeExpr.within]
    | some length => rw [TypeRef.within, typeExpr, ih, TypeExpr.within]

theorem typeExpr_of_isOwn {type : TypeRef} (h : type.IsOwn scope.own name) :
    scope.typeExpr type = .name (scope.refer name) := by
  cases h with
  | named => rfl
  | external => exact if_pos rfl

theorem baseVtable_of_isOwn {type : TypeRef} (h : type.IsOwn scope.own name) :
    scope.baseVtable (some type) = .name (scope.vtableRef name) := by
  cases h with
  | named => rfl
  | external => exact if_pos rfl

variable {library : Identity} {items : Items} {known : Symbols} {item : Item}

/-- The name of an item means its identifier. -/
theorem refer_novel (hitem : item ∈ items.novel known) :
    (Scope.of library items known).refer item.name =
      .item ((LocalNames.assign items known).identOf item.name) := by
  obtain ⟨ident, hident⟩ := Option.isSome_iff_exists.mp
    (LocalNames.contains_ident_assign.mpr ⟨item, hitem, rfl⟩)
  have hnovel : ¬known.contains item.name := by simp [(Items.mem_novel.mp hitem).2]
  rw [LocalNames.identOf, hident, Option.getD_some]
  simp only [refer, Scope.of, if_neg hnovel, hident]

theorem typeExpr_novel (hitem : item ∈ items.novel known) {type : TypeRef}
    (h : type.IsOwn library item.name) :
    (Scope.of library items known).typeExpr type =
      .name (.item ((LocalNames.assign items known).identOf item.name)) := by
  rw [typeExpr_of_isOwn h, refer_novel hitem]

/-- A reference to an item is written as its identifier, however deep it stands. -/
theorem typeExpr_within_novel (hitem : item ∈ items.novel known) {type : TypeRef}
    (h : type.IsOwn library item.name) (layers : List (Option UInt32)) :
    (Scope.of library items known).typeExpr (type.within layers) =
      (TypeExpr.name
        (.item ((LocalNames.assign items known).identOf item.name))).within layers := by
  have hplain : type ≠ .builtin .void := by
    rintro rfl
    cases h
  rw [typeExpr_within hplain, typeExpr_novel hitem h]

/-- The name of an interface with the ending of method structures means its method structure. -/
theorem vtableRef_novel (hitem : item ∈ items.novel known) (hinterface : item.isInterface)
    (hvtable : known.contains (item.name ++ "_Vtbl") = false) :
    (Scope.of library items known).vtableRef item.name =
      .item ((LocalNames.assign items known).vtableOf item.name) := by
  obtain ⟨vtable, hfound⟩ := Option.isSome_iff_exists.mp
    (LocalNames.contains_vtable_assign.mpr ⟨item, hitem, rfl, hinterface⟩)
  have hnovel : ¬known.contains (item.name ++ "_Vtbl") := by simp [hvtable]
  rw [LocalNames.vtableOf, hfound, Option.getD_some]
  simp only [vtableRef, Scope.of, if_neg hnovel, hfound]

end Scope

namespace Wrapper

/-- A reference of a library to an item of its own that is no known symbol is written, at any depth,
as the identifier that the item is declared under.  So it needs no placeholder, and references to
different items are written differently.  An interface on top of another one has the method
structure that is declared for that one as its base. -/
theorem references_hit {items : Items} (named : items.AreNamed) (library : Identity)
    (known : Symbols) (source : Option Path) :
    let w := ofItems library items known source
    let scope := Scope.of library items known
    let declared (name : String) : Prop := name ∈ items.keys ∧ known.contains name = false
    (∀ name, declared name → w.IsIdentOf items name (scope.names.identOf name) ∧
      ∀ type : TypeRef, type.IsOwn library name → ∀ layers,
        scope.typeExpr (type.within layers) =
          (TypeExpr.name (.item (scope.names.identOf name))).within layers ∧
        (scope.typeExpr (type.within layers)).names.filterMap NameRef.missing? = []) ∧
    (∀ name other, declared name → declared other → name ≠ other →
      (scope.typeExpr (.named name)).text ≠ (scope.typeExpr (.named other)).text) ∧
    ∀ name iid base methods, items.get? name = some (.interface name iid base methods) →
      declared name → known.contains (name ++ "_Vtbl") = false →
      w.IsVtableOf items name (scope.names.vtableOf name) ∧
      ∀ derived iid' methods' (type : TypeRef), type.IsOwn library name →
        items.get? derived = some (.interface derived iid' (some type) methods') →
        ∀ written, w.DeclaresBase items derived written ↔
          known.contains derived = false ∧ written = .name (.item (scope.names.vtableOf name)) := by
  intro w scope declared
  have hnovel {name : String} (h : declared name) :
      ∃ item ∈ items.novel known, item.name = name := by
    obtain ⟨hname, hknown⟩ := h
    rw [← named.names_values] at hname
    obtain ⟨item, hvalue, rfl⟩ := List.mem_map.mp hname
    exact ⟨item, Items.mem_novel.mpr ⟨hvalue, hknown⟩, rfl⟩
  refine ⟨fun name hname => ?_, fun name other hname hother hne htext => ?_,
    fun name iid base methods hget hname hvtable => ?_⟩
  · obtain ⟨item, hitem, rfl⟩ := hnovel hname
    refine ⟨isIdentOf_identOf named hitem, fun type htype layers => ?_⟩
    have hwritten := Scope.typeExpr_within_novel hitem htype layers
    refine ⟨hwritten, ?_⟩
    rw [hwritten, TypeExpr.names_within]
    rfl
  · obtain ⟨item, hitem, rfl⟩ := hnovel hname
    obtain ⟨second, hsecond, rfl⟩ := hnovel hother
    rw [Scope.typeExpr_novel hitem .named, Scope.typeExpr_novel hsecond .named] at htext
    exact hne (congrArg Item.name (LocalNames.eq_of_identOf_eq named hitem hsecond htext))
  · have hitem := Items.mem_novel.mpr ⟨(named.of_get? hget).1, hname.2⟩
    have hbase : scope.vtableRef name = .item (scope.names.vtableOf name) :=
      Scope.vtableRef_novel hitem rfl hvtable
    refine ⟨isVtableOf_vtableOf named hitem rfl,
      fun derived iid' methods' type htype hderived written => ?_⟩
    rw [declaresBase_iff named hderived, Scope.baseVtable_of_isOwn htype, hbase]

/-- Two items with one identifier, an item with the name of a method structure, and two interfaces
on top of the one that this is the method structure of. -/
def stacked (library : Identity) : Items :=
  Table.ofList
    [("IShape_Vtbl", .struct "IShape_Vtbl" []), ("IShape", .interface "IShape" none none []),
      ("Fill Style", .enumeration "Fill Style" [("Solid", 0)]),
      ("Fill_Style", .struct "Fill_Style" []),
      ("ICircle", .interface "ICircle" none (some (.named "IShape")) []),
      ("ISquare", .interface "ISquare" none (some (.external library "IShape")) [])]

/-- The numbers that identifiers get are written in the references too. -/
theorem references_hit_stacked :
    let library : Identity := ⟨⟨10#128⟩, 1, 0, 0⟩
    let items := stacked library
    let w := ofItems library items .standard none
    let scope := Scope.of library items .standard
    items.AreNamed ∧ w.IsIdentOf items "Fill_Style" "Fill_Style_2" ∧
      scope.typeExpr (.pointer (.external library "Fill_Style")) =
        .pointer (.name (.item "Fill_Style_2")) ∧
      (scope.typeExpr (.named "Fill_Style")).text ≠ (scope.typeExpr (.named "Fill Style")).text ∧
      w.IsVtableOf items "IShape" "IShape_Vtbl_2" ∧
      w.DeclaresBase items "ICircle" (.name (.item "IShape_Vtbl_2")) ∧
      w.DeclaresBase items "ISquare" (.name (.item "IShape_Vtbl_2")) := by
  intro library items w scope
  have named : items.AreNamed := by
    unfold Items.AreNamed
    decide
  have hident : scope.names.identOf "Fill_Style" = "Fill_Style_2" := by decide
  have hvtable : scope.names.vtableOf "IShape" = "IShape_Vtbl_2" := by decide
  have hdeclared : ∀ name ∈ items.keys, Symbols.standard.contains name = false := by decide
  have hfill : "Fill_Style" ∈ items.keys := by decide
  have hspaced : "Fill Style" ∈ items.keys := by decide
  have hshape : "IShape" ∈ items.keys := by decide
  obtain ⟨hhit, hdistinct, hbase⟩ := references_hit named library .standard none
  obtain ⟨hisIdent, hwritten⟩ := hhit "Fill_Style" ⟨hfill, hdeclared _ hfill⟩
  obtain ⟨hisVtable, hbases⟩ := hbase "IShape" none none [] (by decide)
    ⟨hshape, hdeclared _ hshape⟩ (by decide)
  refine ⟨named, hident ▸ hisIdent, hident ▸ (hwritten _ .external [none]).1,
    hdistinct _ _ ⟨hfill, hdeclared _ hfill⟩ ⟨hspaced, hdeclared _ hspaced⟩ (by decide),
    hvtable ▸ hisVtable, ?_, ?_⟩
  · exact (hbases "ICircle" none [] _ .named (by decide) _).mpr
      ⟨by decide, by rw [hvtable]⟩
  · exact (hbases "ISquare" none [] _ .external (by decide) _).mpr
      ⟨by decide, by rw [hvtable]⟩

end Wrapper

end Typelib
