import Typelib.Proofs.Wrapper.Methods

/-!
# The members of a declaration

Fields, slots and constants stand inside a declaration, and their names are told apart there.  The
slots of a method structure are numbered (`nodup_slotNames`), but beside the field for the base,
which is put in front of them afterwards (`Wrapper.field_names_nodup_iff`).  Of fields and
constants with one identifier only the first is kept (`firstByName_sublist`), so members are lost
exactly when different ones have one identifier (`Wrapper.members_kept_iff`).
-/

namespace Typelib

/-! ## The first of each name -/

section

variable {α : Type} {entries : List (String × α)}

/-- Nothing is left out exactly when the names are distinct. -/
theorem firstByName_eq_self_iff :
    firstByName [] entries = entries ↔ (entries.map Prod.fst).Nodup := by
  constructor
  · intro h
    rw [← h]
    exact nodup_firstByName
  · intro hnodup
    -- the names are the same, and as many
    have hnames : ((firstByName [] entries).map Prod.fst).Perm (entries.map Prod.fst) :=
      (List.perm_ext_iff_of_nodup nodup_firstByName hnodup).mpr fun name => by
        simp only [mem_names_firstByName, List.not_mem_nil, not_false_iff, and_true]
    have hlength := hnames.length_eq
    rw [List.length_map, List.length_map] at hlength
    exact firstByName_sublist.eq_of_length hlength

/-- Every entry is kept exactly when entries of one name are the same. -/
theorem forall_mem_firstByName_iff :
    (∀ entry ∈ entries, entry ∈ firstByName [] entries) ↔
      ∀ entry ∈ entries, ∀ other ∈ entries, entry.1 = other.1 → entry.2 = other.2 := by
  constructor
  · intro h entry hentry other hother heq
    have hsame : entry = other :=
      List.inj_on_of_nodup_map nodup_firstByName (h entry hentry) (h other hother) heq
    rw [hsame]
  · intro h entry hentry
    have hname : entry.1 ∈ (firstByName [] entries).map Prod.fst :=
      mem_names_firstByName.mpr ⟨List.mem_map_of_mem hentry, List.not_mem_nil⟩
    obtain ⟨kept, hkept, heq⟩ := List.mem_map.mp hname
    have hvalue := h kept (firstByName_sublist.subset hkept) entry hentry heq
    rwa [Prod.ext heq hvalue] at hkept

end

/-! ## Slots -/

section

variable {seen : List String} {methods : List Method} {name : String}

/-- The slots of methods have distinct names, which none of those seen has. -/
theorem nodup_slotNames (seen : List String) (methods : List Method) :
    (slotNames seen methods).Nodup ∧ ∀ name ∈ slotNames seen methods, name ∉ seen := by
  induction methods generalizing seen with
  | nil => exact ⟨.nil, fun name hname => absurd hname List.not_mem_nil⟩
  | cons m rest ih =>
    obtain ⟨hnodup, hfree⟩ := ih (nextFree seen m.slotName :: seen)
    refine ⟨List.nodup_cons.mpr ⟨fun hmem => hfree _ hmem List.mem_cons_self, hnodup⟩, ?_⟩
    refine List.forall_mem_cons.mpr ⟨nextFree_not_mem _ _, fun name hname hseen => ?_⟩
    exact hfree name hname (List.mem_cons_of_mem _ hseen)

/-- A name without an ending is one of a slot exactly when a method asks for it and it was free. -/
theorem mem_slotNames_iff (hunmarked : ¬IsMarked name) :
    name ∈ slotNames seen methods ↔ name ∉ seen ∧ ∃ m ∈ methods, m.slotName = name := by
  induction methods generalizing seen with
  | nil => simp [slotNames]
  | cons m rest ih =>
    rw [slotNames, List.mem_cons, ih, List.mem_cons, not_or]
    constructor
    · rintro (hname | ⟨⟨-, hfree⟩, other, hother, heq⟩)
      · have hkept : nextFree seen m.slotName = m.slotName :=
          (nextFree_eq_or_isMarked seen m.slotName).resolve_right (hname ▸ hunmarked)
        refine ⟨?_, m, List.mem_cons_self, (hname.trans hkept).symm⟩
        rw [hname]
        exact nextFree_not_mem _ _
      · exact ⟨hfree, other, List.mem_cons_of_mem m hother, heq⟩
    · rintro ⟨hfree, other, hother, rfl⟩
      rcases List.mem_cons.mp hother with rfl | hother
      · exact .inl (nextFree_of_not_mem hfree).symm
      · by_cases heq : other.slotName = nextFree seen m.slotName
        · exact .inl heq
        · exact .inr ⟨⟨heq, hfree⟩, other, hother, rfl⟩

/-- A name that ends with an underscore has no ending of the generator. -/
theorem IsMarked.not_of_underscore (h : name.toList.getLast? = some '_') : ¬IsMarked name := by
  intro hmarked
  rcases hmarked.ending with ⟨word, hword, front, hsuffix⟩ | hdigit
  · rw [← hsuffix] at h
    simp only [List.mem_cons, List.not_mem_nil, or_false] at hword
    rcases hword with rfl | rfl | rfl <;> simp at h
  · rw [h] at hdigit
    exact absurd hdigit (by decide)

theorem IsMarked.not_underscore : ¬IsMarked "_" := IsMarked.not_of_underscore (by decide)

/-- The slot of an accessor has a word before it. -/
theorem slotName_eq_iff {m : Method} (h : name.toList.head?.any (· ∉ ['g', 'p'])) :
    m.slotName = name ↔ m.kind = .func ∧ identifier m.name = name := by
  cases hkind : m.kind with
  | func => simp [Method.slotName, hkind]
  | propGet | propPut | propPutRef =>
    have hne : m.slotName ≠ name := by
      rintro rfl
      simp [Method.slotName, hkind] at h
    simp [hne]

end

/-- The names of the fields in the lines of a structure; the first name is the structure's own. -/
def fieldNames (lines : List String) : List String := (lines.filterMap declaredName?).tail

/-- A constant under the identifier made of its name. -/
def Constant.entry (c : Constant) : String × ConstValue := (identifier c.name, c.value)

theorem Declaration.lines_record (name : String) (fields : List (String × TypeExpr)) :
    (record name fields).lines = structLines name (fields.map (Prod.map id TypeExpr.text)) := by
  have hfields : (fields.map (Prod.map id TypeExpr.text)).map fieldText =
      fields.map fun f => fieldLine f.1 f.2 := by
    rw [List.map_map]
    rfl
  rw [structLines, hfields]
  rfl

namespace Scope

variable (scope : Scope)

/-- A field under the identifier made of its name. -/
def fieldEntry (f : Field) : String × TypeExpr := (identifier f.name, scope.typeExpr f.type)

/-- The declaration of a structure. -/
def record (name : String) (fields : List Field) : Declaration :=
  .record (scope.names.identOf name) (scope.recordFields fields)

/-- The declaration of the constants of a module. -/
def constantModule (name : String) (values : List Constant) : Declaration :=
  .constants (scope.names.identOf name) (moduleConstants values)

/-- The declaration of the member numbers of a dispatch interface. -/
def numbers (name : String) (methods : List Method) : Declaration :=
  .memberNumbers (scope.names.identOf name) (memberNumbers methods)

variable {scope}

theorem map_name_slots (methods : List Method) :
    (scope.slots methods).map Slot.name = slotNames [] methods := by
  have hslots (seen : List String) :
      ((slotNames seen methods).zipWith scope.slot methods).map Slot.name =
        slotNames seen methods := by
    induction methods generalizing seen with
    | nil => rfl
    | cons m rest ih => exact congrArg (nextFree seen m.slotName :: ·) (ih _)
  exact hslots []

theorem recordFields_eq (fields : List Field) :
    scope.recordFields fields = firstByName [] (fields.map scope.fieldEntry) := by
  have hentries : fields.map scope.fieldEntry =
      (fields.map fun f => (identifier f.name, f.type)).map (Prod.map id scope.typeExpr) := by
    rw [List.map_map]
    rfl
  rw [hentries, ← firstByName_map]
  rfl

/-- The member numbers of methods, under the identifiers made of their names. -/
def numberEntries (methods : List Method) : List (String × Int32) :=
  methods.filterMap fun m => m.memid.map fun memid => (identifier m.name, memid)

theorem forall_mem_numberEntries_iff {methods : List Method} {P : String × Int32 → Prop} :
    (∀ entry ∈ numberEntries methods, P entry) ↔
      ∀ m ∈ methods, ∀ memid ∈ m.memid, P (identifier m.name, memid) := by
  constructor
  · intro h m hm memid hmemid
    exact h _ (List.mem_filterMap.mpr ⟨m, hm, Option.map_eq_some_iff.mpr ⟨memid, hmemid, rfl⟩⟩)
  · intro h entry hentry
    obtain ⟨m, hm, hmap⟩ := List.mem_filterMap.mp hentry
    obtain ⟨memid, hmemid, rfl⟩ := Option.map_eq_some_iff.mp hmap
    exact h m hm memid hmemid

/-- Every member number is kept exactly when methods with one identifier have the same. -/
theorem mem_memberNumbers_iff (methods : List Method) :
    (∀ m ∈ methods, ∀ memid ∈ m.memid, (identifier m.name, memid) ∈ memberNumbers methods) ↔
      ∀ m ∈ methods, ∀ other ∈ methods, identifier m.name = identifier other.name →
        ∀ memid ∈ m.memid, ∀ memid' ∈ other.memid, memid = memid' := by
  have hkept : (∀ entry ∈ numberEntries methods, entry ∈ memberNumbers methods) ↔
      ∀ entry ∈ numberEntries methods, ∀ other ∈ numberEntries methods,
        entry.1 = other.1 → entry.2 = other.2 := forall_mem_firstByName_iff
  simp only [forall_mem_numberEntries_iff] at hkept
  rw [hkept]
  -- only the order of the quantifiers differs
  constructor
  · intro h m hm other hother heq memid hmemid memid' hmemid'
    exact h m hm memid hmemid other hother memid' hmemid' heq
  · intro h m hm memid hmemid other hother memid' hmemid' heq
    exact h m hm other hother heq memid hmemid memid' hmemid'

end Scope

namespace Wrapper

section

variable {library : Identity} {items : Items} {known : Symbols} {source : Option Path}
  {name : String}

theorem record_mem_declarations {fields : List Field}
    (h : .struct name fields ∈ items.novel known) :
    (Scope.of library items known).record name fields ∈
      (ofItems library items known source).declarations :=
  mem_declarations_of_novel h fun _ => Declared.mem_add_self

theorem constantModule_mem_declarations {values : List Constant}
    (h : .constants name values ∈ items.novel known) :
    (Scope.of library items known).constantModule name values ∈
      (ofItems library items known source).declarations :=
  mem_declarations_of_novel h fun _ => Declared.mem_add_self

theorem numbers_mem_declarations {iid : Option Guid} {methods : List Method}
    (h : .dispInterface name iid methods ∈ items.novel known)
    (hne : Scope.memberNumbers methods ≠ []) :
    (Scope.of library items known).numbers name methods ∈
      (ofItems library items known source).declarations := by
  refine mem_declarations_of_novel h fun d => ?_
  simp only [Scope.declareItem, Scope.declareDispInterface]
  exact Declared.mem_add_self

theorem fieldNames_methodStructure {iid : Option Guid} {base : Option TypeRef}
    {methods : List Method} (h : .interface name iid base methods ∈ items.novel known) :
    fieldNames ((Scope.of library items known).methodStructure name base methods).lines =
      "base__" :: slotNames [] methods := by
  have hdecl : (Scope.of library items known).methodStructure name base methods ∈
      (ofItems library items known none).declarations := methodStructure_mem_declarations h
  rw [fieldNames, Declaration.filterMap_lines (idents_sound hdecl)]
  exact congrArg ("base__" :: ·) (Scope.map_name_slots methods)

theorem fieldNames_record {fields : List Field} (h : .struct name fields ∈ items.novel known) :
    fieldNames ((Scope.of library items known).record name fields).lines =
      ((Scope.of library items known).recordFields fields).map Prod.fst := by
  have hdecl : (Scope.of library items known).record name fields ∈
      (ofItems library items known none).declarations := record_mem_declarations h
  rw [fieldNames, Declaration.filterMap_lines (idents_sound hdecl)]
  rfl

end

/-- The fields of a method structure have distinct names exactly when no method that is called as a
function has the identifier of the field for the base, and those of any other structure always
have. -/
theorem field_names_nodup_iff (library : Identity) (items : Items) (known : Symbols)
    (source : Option Path) :
    let w := ofItems library items known source
    let scope := Scope.of library items known
    (∀ name iid base methods, .interface name iid base methods ∈ items.novel known →
      w.Shows (scope.methodStructure name base methods).lines ∧
        ((fieldNames (scope.methodStructure name base methods).lines).Nodup ↔
          ∀ m ∈ methods, m.kind = .func → identifier m.name ≠ "base__")) ∧
    ∀ name fields, .struct name fields ∈ items.novel known →
      w.Shows (scope.record name fields).lines ∧
        (fieldNames (scope.record name fields).lines).Nodup := by
  intro w scope
  constructor
  · intro name iid base methods h
    refine ⟨shows_of_mem_declarations (methodStructure_mem_declarations h), ?_⟩
    have hunmarked : ¬IsMarked "base__" := IsMarked.not_of_underscore (by decide)
    have hslot (m : Method) : m.slotName = "base__" ↔
        m.kind = .func ∧ identifier m.name = "base__" := slotName_eq_iff (by decide)
    rw [fieldNames_methodStructure h, List.nodup_cons, mem_slotNames_iff hunmarked]
    simp only [(nodup_slotNames [] methods).1, and_true, List.not_mem_nil, not_false_iff, true_and,
      hslot, not_exists, not_and, ne_eq]
  · intro name fields h
    refine ⟨shows_of_mem_declarations (record_mem_declarations h), ?_⟩
    rw [fieldNames_record h, Scope.recordFields_eq]
    exact nodup_firstByName

/-- Overloads, accessors of one name, and names that are alike as identifiers. -/
def overloads : List Method :=
  [⟨"Draw", .func, some 1, [], .void⟩, ⟨"Draw", .func, some 1, [], .builtin .i4⟩,
    ⟨"Color", .propGet, some 2, [], .builtin .i4⟩,
    ⟨"Color", .propPut, some 2, [⟨"value", .builtin .i4, .into, false⟩], .void⟩,
    ⟨"get Color", .func, none, [], .void⟩, ⟨"base__", .propGet, none, [], .builtin .i4⟩]

/-- Fields whose names are alike as identifiers. -/
def alikeFields : List Field := [⟨"a b", .builtin .i4⟩, ⟨"a_b", .builtin .i8⟩]

/-- An interface and a structure with these members. -/
def overloaded : Items :=
  Table.ofList
    [("IShape", .interface "IShape" none none overloads), ("Point", .struct "Point" alikeFields)]

theorem field_names_overloaded :
    let w := ofItems ⟨⟨10#128⟩, 1, 0, 0⟩ overloaded .standard none
    let scope := Scope.of ⟨⟨10#128⟩, 1, 0, 0⟩ overloaded .standard
    let vtable := (scope.methodStructure "IShape" none overloads).lines
    let record := (scope.record "Point" alikeFields).lines
    w.Shows vtable ∧ w.Shows record ∧ (fieldNames vtable).Nodup ∧ (fieldNames record).Nodup ∧
      fieldNames vtable =
        ["base__", "Draw", "Draw_2", "get_Color", "put_Color", "get_Color_2", "get_base__"] := by
  intro w scope vtable record
  obtain ⟨hinterfaces, hstructs⟩ :=
    field_names_nodup_iff ⟨⟨10#128⟩, 1, 0, 0⟩ overloaded .standard none
  have hnovel : .interface "IShape" none none overloads ∈ overloaded.novel .standard := by decide
  obtain ⟨hvtable, hvtableNodup⟩ := hinterfaces "IShape" none none overloads hnovel
  obtain ⟨hrecord, hrecordNodup⟩ := hstructs "Point" alikeFields (by decide)
  have hnames : fieldNames vtable =
      ["base__", "Draw", "Draw_2", "get_Color", "put_Color", "get_Color_2", "get_base__"] :=
    (fieldNames_methodStructure hnovel).trans (by decide)
  exact ⟨hvtable, hrecord, hvtableNodup.mpr (by decide), hrecordNodup, hnames⟩

/-- An interface with a method that is called like the field for the base. -/
def based : Items :=
  Table.ofList
    [("IShape", .interface "IShape" none none [⟨"base__", .func, none, [], .void⟩])]

/-- The structure has two fields of that name. -/
theorem based_twice :
    let w := ofItems ⟨⟨10#128⟩, 1, 0, 0⟩ based .standard none
    let block := structLines "IShape_Vtbl"
      [("base__", "IUnknown_Vtbl"), ("base__", functionText ["this: *mut c_void"] "HRESULT")]
    based.AreNamed ∧ block <:+: w.lines ∧ fieldNames block = ["base__", "base__"] ∧
      ¬(fieldNames block).Nodup := by
  unfold Items.AreNamed
  decide +kernel

/-! ## Members that are kept -/

/-- The fields of a structure and the constants of a module are declared in order, each with its
own type or value, and none is left out exactly when their identifiers are distinct.  The member
numbers of a dispatch interface are all declared exactly when no two methods with one identifier
have different ones. -/
theorem members_kept_iff (library : Identity) (items : Items) (known : Symbols)
    (source : Option Path) :
    let w := ofItems library items known source
    let scope := Scope.of library items known
    (∀ name fields, .struct name fields ∈ items.novel known →
      w.Shows (structLines (scope.names.identOf name)
          ((scope.recordFields fields).map (Prod.map id TypeExpr.text))) ∧
        (scope.recordFields fields).Sublist (fields.map scope.fieldEntry) ∧
        (scope.recordFields fields = fields.map scope.fieldEntry ↔
          (fields.map fun f => identifier f.name).Nodup)) ∧
    (∀ name values, .constants name values ∈ items.novel known →
      w.Shows (scope.constantModule name values).lines ∧
        (Scope.moduleConstants values).Sublist (values.map Constant.entry) ∧
        (Scope.moduleConstants values = values.map Constant.entry ↔
          (values.map fun c => identifier c.name).Nodup)) ∧
    ∀ name iid methods, .dispInterface name iid methods ∈ items.novel known →
      (Scope.memberNumbers methods ≠ [] → w.Shows (scope.numbers name methods).lines) ∧
        ((∀ m ∈ methods, ∀ memid ∈ m.memid,
            (identifier m.name, memid) ∈ Scope.memberNumbers methods) ↔
          ∀ m ∈ methods, ∀ other ∈ methods, identifier m.name = identifier other.name →
            ∀ memid ∈ m.memid, ∀ memid' ∈ other.memid, memid = memid') := by
  intro w scope
  refine ⟨fun name fields h => ⟨?_, ?_, ?_⟩, fun name values h => ⟨?_, ?_, ?_⟩,
    fun name iid methods h => ⟨fun hne => ?_, Scope.mem_memberNumbers_iff methods⟩⟩
  · rw [← Declaration.lines_record]
    exact shows_of_mem_declarations (record_mem_declarations h)
  · rw [Scope.recordFields_eq]
    exact firstByName_sublist
  · rw [Scope.recordFields_eq, firstByName_eq_self_iff, List.map_map]
    rfl
  · exact shows_of_mem_declarations (constantModule_mem_declarations h)
  · exact firstByName_sublist
  · refine firstByName_eq_self_iff.trans ?_
    rw [List.map_map]
    rfl
  · exact shows_of_mem_declarations (numbers_mem_declarations h hne)

/-- Fields whose names are no identifiers but differ as such. -/
def spacedFields : List Field := [⟨"a b", .builtin .i4⟩, ⟨"a-c", .builtin .i8⟩]

/-- Constants with such names. -/
def spacedConstants : List Constant := [⟨"a b", .int 1⟩, ⟨"a-c", .int 2⟩]

/-- A property, with one number for both of its methods, and a method without a number. -/
def spacedMethods : List Method :=
  [⟨"a b", .propGet, some 1, [], .builtin .i4⟩, ⟨"a b", .propPut, some 1, [], .void⟩,
    ⟨"a-c", .func, some 2, [], .void⟩, ⟨"a_c", .func, none, [], .void⟩]

/-- A structure, a module and a dispatch interface with these members. -/
def spaced : Items :=
  Table.ofList
    [("Point", .struct "Point" spacedFields), ("Limits", .constants "Limits" spacedConstants),
      ("DShape", .dispInterface "DShape" none spacedMethods)]

theorem members_kept_spaced :
    let w := ofItems ⟨⟨10#128⟩, 1, 0, 0⟩ spaced .standard none
    let scope := Scope.of ⟨⟨10#128⟩, 1, 0, 0⟩ spaced .standard
    w.Shows (structLines "Point" [("a_b", "i32"), ("a_c", "i64")]) ∧
      scope.recordFields spacedFields = spacedFields.map scope.fieldEntry ∧
      Scope.moduleConstants spacedConstants = spacedConstants.map Constant.entry ∧
      ∀ m ∈ spacedMethods, ∀ memid ∈ m.memid,
        (identifier m.name, memid) ∈ Scope.memberNumbers spacedMethods := by
  intro w scope
  obtain ⟨hstructs, hmodules, hdispatch⟩ :=
    members_kept_iff ⟨⟨10#128⟩, 1, 0, 0⟩ spaced .standard none
  obtain ⟨hlines, -, hfields⟩ := hstructs "Point" spacedFields (by decide)
  obtain ⟨-, -, hvalues⟩ := hmodules "Limits" spacedConstants (by decide)
  obtain ⟨-, hnumbers⟩ := hdispatch "DShape" none spacedMethods (by decide)
  have hidents : identifier "a b" = "a_b" ∧ identifier "a-c" = "a_c" := by decide
  refine ⟨hlines, hfields.mpr (by decide), hvalues.mpr (by decide), hnumbers.mpr ?_⟩
  simp [spacedMethods, hidents]

/-- Constants with names that are alike as identifiers. -/
def alikeConstants : List Constant := [⟨"a b", .int 1⟩, ⟨"a_b", .int 2⟩]

/-- Methods with names that are alike as identifiers. -/
def alikeMethods : List Method :=
  [⟨"a b", .func, some 1, [], .void⟩, ⟨"a_b", .func, some 2, [], .void⟩]

/-- A structure, a module and a dispatch interface with such members. -/
def alike : Items :=
  Table.ofList
    [("Point", .struct "Point" alikeFields), ("Limits", .constants "Limits" alikeConstants),
      ("DShape", .dispInterface "DShape" none alikeMethods)]

/-- Of two members whose names differ, the second is lost. -/
theorem alike_lost :
    let w := ofItems ⟨⟨10#128⟩, 1, 0, 0⟩ alike .standard none
    (alike.AreNamed ∧ (alikeFields.map Field.name).Nodup ∧
        (alikeConstants.map Constant.name).Nodup ∧ (alikeMethods.map Method.name).Nodup) ∧
      (¬∃ fields, .record "Point" fields ∈ w.declarations ∧
        fields.map Prod.snd = [.primitive .i32, .primitive .i64]) ∧
      (¬∃ values, .constants "Limits" values ∈ w.declarations ∧ .int 2 ∈ values.map Prod.snd) ∧
      ¬∃ values, .memberNumbers "DShape" values ∈ w.declarations ∧ 2 ∈ values.map Prod.snd := by
  intro w
  have hdecls : w.declarations =
      [.record "Point" [("a_b", .primitive .i32)], .constants "Limits" [("a_b", .int 1)],
        .comment true "Dispatch interface \x60DShape\x60.",
        .handle "DShape" (.name (.symbol "IDispatch")), .memberNumbers "DShape" [("a_b", 1)]] := by
    decide
  refine ⟨⟨?_, by decide, by decide, by decide⟩, ?_, ?_, ?_⟩
  · unfold Items.AreNamed
    decide
  · rintro ⟨fields, hmem, htypes⟩
    obtain rfl : fields = [("a_b", .primitive .i32)] := by simpa [hdecls] using hmem
    exact absurd htypes (by decide)
  · rintro ⟨values, hmem, hvalue⟩
    obtain rfl : values = [("a_b", .int 1)] := by simpa [hdecls] using hmem
    exact absurd hvalue (by decide)
  · rintro ⟨values, hmem, hvalue⟩
    obtain rfl : values = [("a_b", 1)] := by simpa [hdecls] using hmem
    exact absurd hvalue (by decide)

end Wrapper

end Typelib
