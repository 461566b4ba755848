import Typelib.Item.Encode
import Typelib.Proofs.Guid

/-!
# What is written of an item is read back

`TypeRef.toJson` and its companions write the parts of an item, `TypeRef.ofJson?` and its
companions read them.  Each part is read back as it was written, a type to any depth
(`TypeRef.ofJson?_toJson`).  The one exception is a constant whose value is no finite number: such
a number is written as null, and the module that holds it cannot be read (`Item.ofJson?_toJson`).
-/

namespace Typelib

namespace Json

/-! ## Numbers -/

theorem intWithin?_int {low high n : Int} (hlow : low ≤ n) (hhigh : n < high) :
    (int n).intWithin? low high = some n := by
  rw [intWithin?, int, int?, Option.bind_some, if_pos ⟨hlow, hhigh⟩]

theorem word16?_nat (w : UInt16) : (nat w.toNat).word16? = some w := by
  have hbound := w.toNat_lt
  rw [word16?, nat, intWithin?_int (by omega) (by omega), Option.map_some, Int.toNat_natCast,
    UInt16.ofNat_toNat]

theorem word32?_nat (w : UInt32) : (nat w.toNat).word32? = some w := by
  have hbound := w.toNat_lt
  rw [word32?, nat, intWithin?_int (by omega) (by omega), Option.map_some, Int.toNat_natCast,
    UInt32.ofNat_toNat]

theorem int32?_int (n : Int32) : (int n.toInt).int32? = some n := by
  have hlow := n.le_toInt
  have hhigh := n.toInt_lt
  rw [int32?, intWithin?_int (by omega) (by omega), Option.map_some, Int32.ofInt_toInt]

theorem int64?_int (n : Int64) : (int n.toInt).int64? = some n := by
  have hlow := n.le_toInt
  have hhigh := n.toInt_lt
  rw [int64?, intWithin?_int (by omega) (by omega), Option.map_some, Int64.ofInt_toInt]

/-! ## Lists and values that may be missing -/

variable {α : Type} {read : Json → Option α} {write : α → Json}

/-- A list is read back if each of its elements is, and not at all otherwise. -/
theorem listField_ofList_filter {p : α → Bool}
    (h : ∀ x, read (write x) = if p x then some x else none) (xs : List α) :
    listField read (some (ofList write xs)) = if xs.all p then some xs else none := by
  have hread : (xs.map write).mapM read = if xs.all p then some xs else none := by
    induction xs with
    | nil => rfl
    | cons x rest ih => cases hx : p x <;> cases hrest : rest.all p <;> simp_all [List.mapM_cons]
  simp [listField, withDefault, list?, ofList, array?, hread]

theorem listField_ofList (h : ∀ x, read (write x) = some x) (xs : List α) :
    listField read (some (ofList write xs)) = some xs := by
  simpa using listField_ofList_filter (p := fun _ => true) (by simpa using h) xs

/-- What is never written as null may be missing. -/
theorem optional_ofOption (h : ∀ x, read (write x) = some x) (hnull : ∀ x, write x ≠ null)
    (value : Option α) : optional read (some (ofOption write value)) = some value := by
  rcases value with _ | x
  · rfl
  · have hread : optional read (some (write x)) = (read (write x)).map some := by
      cases hx : write x with
      | null => exact absurd hx (hnull x)
      | _ => rfl
    rw [ofOption, hread, h, Option.map_some]

end Json

open Json

/-! ## Identities and types -/

theorem Guid.ofJson?_toJson (g : Guid) : Guid.ofJson? g.toJson = some g := by
  simp [Guid.ofJson?, Guid.toJson, string?, Guid.parse?_braced]

theorem Identity.ofJson?_object {libid major minor lcid : Json} {i : Identity}
    (hlibid : Guid.ofJson? libid = some i.libid) (hmajor : major.word16? = some i.major)
    (hminor : minor.word16? = some i.minor) (hlcid : lcid.word32? = some i.lcid) :
    Identity.ofJson?
      (object [("lcid", lcid), ("libid", libid), ("major", major), ("minor", minor)]) = some i := by
  simp [Identity.ofJson?, record?, List.lookup, required, hlibid, hmajor, hminor, hlcid]

theorem Identity.ofJson?_toJson (i : Identity) : Identity.ofJson? i.toJson = some i :=
  Identity.ofJson?_object i.libid.ofJson?_toJson (word16?_nat _) (word16?_nat _) (word32?_nat _)

theorem tag?_string {α : Type} (s : Strictness) (ofName? : String → Option α) (name : String) :
    tag? s ofName? (string name) = ofName? name := by
  simp [tag?, variant?, isBare]

/-- A type is read back in either notation. -/
theorem TypeRef.ofJson?_toJson (s : Strictness) (t : TypeRef) :
    TypeRef.ofJson? s t.toJson = some t := by
  induction t with
  | builtin type =>
    rw [TypeRef.toJson, TypeRef.ofJson?.eq_def]
    simp [variant?, tag?_string, Builtin.ofKeyword?_keyword]
  | pointer target ih =>
    rw [TypeRef.toJson, TypeRef.ofJson?.eq_def]
    simp [variant?, ih]
  | array element length ih =>
    -- the reader's match on the fields carries its own equation, so it is split, not rewritten
    have hfields : fields? s ["element", "length"]
        (object [("element", element.toJson), ("length", nat length.toNat)]) =
          some [some element.toJson, some (nat length.toNat)] := rfl
    rw [TypeRef.toJson, TypeRef.ofJson?.eq_def]
    simp only [variant?]
    split
    next readElement readLength hread =>
      obtain ⟨rfl, rfl⟩ : readElement = element.toJson ∧ readLength = nat length.toNat := by
        simpa [hfields] using hread.symm
      simp [ih, word32?_nat]
    next hmissing => exact absurd hfields (hmissing _ _)
  | safeArray element ih =>
    rw [TypeRef.toJson, TypeRef.ofJson?.eq_def]
    simp [variant?, ih]
  | named name =>
    rw [TypeRef.toJson, TypeRef.ofJson?.eq_def]
    simp [variant?, string?]
  | external library name =>
    rw [TypeRef.toJson, TypeRef.ofJson?.eq_def]
    simp [variant?, fields?, record?, List.lookup, Identity.ofJson?_toJson, string?]
  | unsupported description =>
    rw [TypeRef.toJson, TypeRef.ofJson?.eq_def]
    simp [variant?, string?]

theorem TypeRef.toJson_ne_null (t : TypeRef) : t.toJson ≠ null := by
  cases t <;> simp [TypeRef.toJson]

/-! ## The parts of an item -/

theorem InvokeKind.ofKeyword?_keyword (k : InvokeKind) : ofKeyword? k.keyword = some k := by
  cases k <;> decide

theorem Direction.ofKeyword?_keyword (d : Direction) : ofKeyword? d.keyword = some d := by
  cases d <;> decide

theorem Param.ofJson?_toJson (p : Param) : Param.ofJson? p.toJson = some p := by
  simp [Param.ofJson?, Param.toJson, record?, List.lookup, required, withDefault, string?, bool?,
    TypeRef.ofJson?_toJson, Direction.ofJson?, tag?_string, Direction.ofKeyword?_keyword]

theorem Method.ofJson?_toJson (m : Method) : Method.ofJson? m.toJson = some m := by
  have hmemid := optional_ofOption int32?_int (by simp [int]) m.memid
  have hparams := listField_ofList Param.ofJson?_toJson m.params
  simp [Method.ofJson?, Method.toJson, record?, List.lookup, required, withDefault, string?,
    tag?_string, InvokeKind.ofKeyword?_keyword, hmemid, hparams, TypeRef.ofJson?_toJson]

theorem Field.ofJson?_toJson (f : Field) : Field.ofJson? f.toJson = some f := by
  simp [Field.ofJson?, Field.toJson, record?, List.lookup, required, string?,
    TypeRef.ofJson?_toJson]

theorem Implemented.ofJson?_toJson (i : Implemented) : Implemented.ofJson? i.toJson = some i := by
  simp [Implemented.ofJson?, Implemented.toJson, record?, List.lookup, required, withDefault,
    bool?, TypeRef.ofJson?_toJson]

theorem enumMember?_toJson (member : String × Int64) :
    enumMember? (enumMemberToJson member) = some member := by
  simp [enumMember?, enumMemberToJson, string?, int64?_int]

/-- Whether a value is anything but a number that is not finite. -/
def ConstValue.isFinite : ConstValue → Bool
  | float d => d.isFinite
  | _ => true

theorem ConstValue.ofJson?_toJson (v : ConstValue) :
    ConstValue.ofJson? v.toJson = if v.isFinite then some v else none := by
  cases v with
  | int n => simp [ConstValue.ofJson?, ConstValue.toJson, variant?, int64?_int, isFinite]
  | float d =>
    cases hd : d.isFinite <;>
      simp [ConstValue.ofJson?, ConstValue.toJson, variant?, double?, isFinite, hd]
  | str s => simp [ConstValue.ofJson?, ConstValue.toJson, variant?, string?, isFinite]
  | bool b => simp [ConstValue.ofJson?, ConstValue.toJson, variant?, bool?, isFinite]

theorem Constant.ofJson?_toJson (c : Constant) :
    Constant.ofJson? c.toJson = if c.value.isFinite then some c else none := by
  cases hfinite : c.value.isFinite <;>
    simp [Constant.ofJson?, Constant.toJson, record?, List.lookup, required, string?,
      ConstValue.ofJson?_toJson, hfinite]

/-! ## Items -/

namespace Item

/-- Whether all constants of an item have finite values. -/
def isFinite : Item → Bool
  | constants _ values => values.all fun c => c.value.isFinite
  | _ => true

/-- The kind of an item in a descriptor. -/
def kind : Item → String
  | interface .. => "interface"
  | dispInterface .. => "disp_interface"
  | coClass .. => "co_class"
  | enumeration .. => "enum"
  | struct .. => "struct"
  | typeAlias .. => "alias"
  | constants .. => "module"
  | unsupported .. => "opaque"

theorem member?_kind (item : Item) : item.toJson.member? "kind" = some (string item.kind) := by
  cases item <;> simp [toJson, member?, List.lookup, kind]

theorem member?_name (item : Item) : item.toJson.member? "name" = some (string item.name) := by
  cases item <;> simp [toJson, member?, List.lookup, name]

/-- An item is read back unless one of its constants is a number that is not finite. -/
theorem ofJson?_toJson (item : Item) :
    ofJson? item.toJson = if item.isFinite then some item else none := by
  have hkind : ofJson? item.toJson = ofContent? item.kind item.toJson := by
    have hmember := item.member?_kind
    cases item <;> simp_all [ofJson?, toJson, required, string?]
  rw [hkind]
  cases item with
  | interface name iid base methods =>
    have hiid := optional_ofOption Guid.ofJson?_toJson (by simp [Guid.toJson]) iid
    have hbase := optional_ofOption (TypeRef.ofJson?_toJson .free) TypeRef.toJson_ne_null base
    have hmethods := listField_ofList Method.ofJson?_toJson methods
    simp [kind, ofContent?, toJson, record?, List.lookup, required, string?, hiid, hbase, hmethods,
      isFinite]
  | dispInterface name iid methods =>
    have hiid := optional_ofOption Guid.ofJson?_toJson (by simp [Guid.toJson]) iid
    have hmethods := listField_ofList Method.ofJson?_toJson methods
    simp [kind, ofContent?, toJson, record?, List.lookup, required, string?, hiid, hmethods,
      isFinite]
  | coClass name clsid implemented =>
    have hclsid := optional_ofOption Guid.ofJson?_toJson (by simp [Guid.toJson]) clsid
    have himplemented := listField_ofList Implemented.ofJson?_toJson implemented
    simp [kind, ofContent?, toJson, record?, List.lookup, required, string?, hclsid, himplemented,
      isFinite]
  | enumeration name members =>
    have hmembers := listField_ofList enumMember?_toJson members
    simp [kind, ofContent?, toJson, record?, List.lookup, required, string?, hmembers, isFinite]
  | struct name fields =>
    have hfields := listField_ofList Field.ofJson?_toJson fields
    simp [kind, ofContent?, toJson, record?, List.lookup, required, string?, hfields, isFinite]
  | typeAlias name target =>
    simp [kind, ofContent?, toJson, record?, List.lookup, required, string?,
      TypeRef.ofJson?_toJson, isFinite]
  | constants name values =>
    have hvalues := listField_ofList_filter Constant.ofJson?_toJson values
    cases hfinite : values.all fun c => c.value.isFinite <;>
      simp [kind, ofContent?, toJson, record?, List.lookup, required, string?, hvalues, isFinite,
        hfinite]
  | unsupported name construct =>
    simp [kind, ofContent?, toJson, record?, List.lookup, required, string?, isFinite]

end Item

end Typelib
