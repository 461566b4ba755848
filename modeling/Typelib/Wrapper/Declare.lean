import Typelib.Source.Declaration
import Typelib.Wrapper.Label
import Typelib.Wrapper.Scope

/-!
# The declarations of an item

`Scope.declare` gives the declarations of one item, in order, and the names taken at the top of
the wrapper after them.  The identifiers of items are assigned beforehand; all other names are
reserved on the way (`reserve`): a taken one is put behind the identifier of its owner, and then
numbered if that is taken too.
-/

namespace Typelib

/-- The entries whose name is not among those seen and does not occur earlier. -/
def firstByName {α : Type} (seen : List String) : List (String × α) → List (String × α)
  | [] => []
  | (name, a) :: rest =>
    if name ∈ seen then firstByName seen rest
    else (name, a) :: firstByName (name :: seen) rest

section FirstByName

variable {α β : Type} {seen : List String} {entries : List (String × α)} {name : String}

theorem firstByName_sublist : (firstByName seen entries).Sublist entries := by
  induction entries generalizing seen with
  | nil => exact .slnil
  | cons entry rest ih =>
    rw [firstByName]
    split
    · exact ih.cons entry
    · exact ih.cons_cons entry

/-- The names are those that are not among the seen ones. -/
theorem mem_names_firstByName :
    name ∈ (firstByName seen entries).map Prod.fst ↔ name ∈ entries.map Prod.fst ∧ name ∉ seen := by
  induction entries generalizing seen with
  | nil => simp [firstByName]
  | cons entry rest ih =>
    obtain ⟨first, a⟩ := entry
    rw [firstByName]
    split
    · rename_i hseen
      rw [ih, List.map_cons, List.mem_cons]
      constructor
      · rintro ⟨hname, hfree⟩
        exact ⟨.inr hname, hfree⟩
      · rintro ⟨rfl | hname, hfree⟩
        · exact absurd hseen hfree
        · exact ⟨hname, hfree⟩
    · rename_i hfree
      rw [List.map_cons, List.mem_cons, ih, List.map_cons, List.mem_cons, List.mem_cons, not_or]
      constructor
      · rintro (rfl | ⟨hname, -, hfree⟩)
        · exact ⟨.inl rfl, hfree⟩
        · exact ⟨.inr hname, hfree⟩
      · rintro ⟨rfl | hname, hfree⟩
        · exact .inl rfl
        · by_cases heq : name = first
          · exact .inl heq
          · exact .inr ⟨hname, heq, hfree⟩

theorem nodup_firstByName : ((firstByName seen entries).map Prod.fst).Nodup := by
  induction entries generalizing seen with
  | nil => exact .nil
  | cons entry rest ih =>
    rw [firstByName]
    split
    · exact ih
    · refine List.nodup_cons.mpr ⟨fun hmem => ?_, ih⟩
      exact (mem_names_firstByName.mp hmem).2 List.mem_cons_self

theorem firstByName_map (f : α → β) :
    (firstByName seen entries).map (Prod.map id f) =
      firstByName seen (entries.map (Prod.map id f)) := by
  induction entries generalizing seen with
  | nil => rfl
  | cons entry rest ih =>
    obtain ⟨first, a⟩ := entry
    by_cases h : first ∈ seen <;> simp [firstByName, h, ih]

end FirstByName

/-- The name that is free for a preferred one of an owner. -/
def freeName (taken : List String) (preferred owner : String) : String :=
  if preferred ∈ taken then nextFree taken (owner ++ "_" ++ preferred) else preferred

/-- Declarations, and the names taken at the top of the wrapper after them. -/
structure Declared where
  declarations : List Declaration
  taken : List String

namespace Declared

/-- No declarations so far. -/
def start (taken : List String) : Declared := ⟨[], taken⟩

/-- One more declaration at the end. -/
def add (d : Declared) (declaration : Declaration) : Declared :=
  { d with declarations := d.declarations ++ [declaration] }

/-- One more declaration, under the free name for a preferred one of an owner. -/
def reserve (d : Declared) (preferred owner : String) (declaration : String → Declaration) :
    Declared :=
  let name := freeName d.taken preferred owner
  ⟨d.declarations ++ [declaration name], name :: d.taken⟩

end Declared

/-! ## Methods -/

/-- The name of a method's slot, before it is numbered. -/
def Method.slotName (m : Method) : String :=
  match m.kind with
  | .func => identifier m.name
  | .propGet => "get_" ++ identifier m.name
  | .propPut => "put_" ++ identifier m.name
  | .propPutRef => "putref_" ++ identifier m.name

/-- The name of the parameter at a place; one without a usable name is called by its place. -/
def paramName (index : Nat) (declared : String) : String :=
  let name := identifier declared
  if name = "_" then s!"arg{index}"
  else if name = "this" then "this_"
  else name

/-- The names of slots, each numbered if an earlier slot or one of those seen has it. -/
def slotNames (seen : List String) : List Method → List String
  | [] => []
  | m :: rest =>
    let name := nextFree seen m.slotName
    name :: slotNames (name :: seen) rest

namespace Scope

variable (scope : Scope)

/-- The slot of a method under a name. -/
def slot (name : String) (m : Method) : Slot :=
  { name
    params := m.params.zipIdx.map fun (param, index) =>
      (paramName index param.name, scope.paramType param.type param.direction)
    result := if m.returns = .void then none else some (scope.typeExpr m.returns) }

/-- The slots of methods, in order. -/
def slots (methods : List Method) : List Slot :=
  (slotNames [] methods).zipWith scope.slot methods

/-! ## Items -/

/-- A constant for an identifier, if there is one. -/
def withGuid (kind ident : String) (guid : Option Guid) (d : Declared) : Declared :=
  match guid with
  | none => d
  | some value =>
    d.reserve (kind ++ "_" ++ ident) ident fun name => .guid name (scope.nameType "GUID") value

/-- The declarations of an interface: the handle of an object and the structure of its methods. -/
def declareInterface (name : String) (iid : Option Guid) (base : Option TypeRef)
    (methods : List Method) (d : Declared) : Declared :=
  let ident := scope.names.identOf name
  let d := d.add (.comment true ("Interface \x60" ++ name ++ "\x60."))
  let d := d.add (.handle ident scope.voidPointer)
  let d := scope.withGuid "IID" ident iid d
  d.add (.vtable (scope.names.vtableOf name) (scope.baseVtable base) scope.voidPointer
    (scope.nameType "HRESULT") (scope.slots methods))

/-- The member numbers of the methods that have one; of two methods with one identifier the
first counts. -/
def memberNumbers (methods : List Method) : List (String × Int32) :=
  firstByName [] (methods.filterMap fun m => m.memid.map fun memid => (identifier m.name, memid))

/-- The declarations of a dispatch interface: the handle and the member numbers. -/
def declareDispInterface (name : String) (iid : Option Guid) (methods : List Method)
    (d : Declared) : Declared :=
  let ident := scope.names.identOf name
  let d := d.add (.comment true ("Dispatch interface \x60" ++ name ++ "\x60."))
  let d := d.add (.handle ident (scope.nameType "IDispatch"))
  let d := scope.withGuid "IID" ident iid d
  match memberNumbers methods with
  | [] => d
  | values => d.add (.memberNumbers ident values)

/-- The interface that stands for all of a coclass's own, or for all of its sources: the first
that is marked, or else the first. -/
def chosen (isSource : Bool) (implemented : List Implemented) : Option Implemented :=
  (implemented.find? fun i => i.isDefault && i.isSource == isSource).or
    (implemented.find? fun i => i.isSource == isSource)

/-- An alias for the chosen interface of a coclass, if there is one. -/
def withChosen (ident ending : String) (chosen : Option Implemented) (d : Declared) : Declared :=
  match chosen with
  | none => d
  | some i =>
    d.reserve (ident ++ "_" ++ ending) ident fun name =>
      .typeAlias name (scope.typeExpr i.interface)

/-- The declarations of a coclass: a structure, the labels of its interfaces and aliases for the
two chosen ones. -/
def declareCoClass (name : String) (clsid : Option Guid) (implemented : List Implemented)
    (d : Declared) : Declared :=
  let ident := scope.names.identOf name
  let d := d.add (.comment true ("Coclass \x60" ++ name ++ "\x60."))
  let d := scope.withGuid "CLSID" ident clsid d
  let d := d.add (.unit ident)
  let d := if implemented = [] then d
    else d.add (.labels ident (implemented.map fun i => i.interface.label))
  let d := scope.withChosen ident "Default" (chosen false implemented) d
  scope.withChosen ident "Source" (chosen true implemented) d

/-- The declarations of an enumeration: an alias for integers and a constant for each member. -/
def declareEnumeration (name : String) (members : List (String × Int64)) (d : Declared) :
    Declared :=
  let ident := scope.names.identOf name
  let integers := if members.all fun m => fitsInt32 m.2 then Primitive.i32 else .i64
  let d := d.add (.comment true ("Enumeration \x60" ++ name ++ "\x60."))
  let d := d.add (.typeAlias ident (.primitive integers))
  members.foldl
    (fun d m => d.reserve (identifier m.1) ident fun constant => .member constant ident m.2) d

/-- The fields of a structure; of two fields with one identifier the first counts. -/
def recordFields (fields : List Field) : List (String × TypeExpr) :=
  (firstByName [] (fields.map fun f => (identifier f.name, f.type))).map fun f =>
    (f.1, scope.typeExpr f.2)

/-- The constants of a module; of two with one identifier the first counts. -/
def moduleConstants (values : List Constant) : List (String × ConstValue) :=
  firstByName [] (values.map fun c => (identifier c.name, c.value))

/-- The declarations of an item that is not a known symbol. -/
def declareItem (item : Item) (d : Declared) : Declared :=
  match item with
  | .interface name iid base methods => scope.declareInterface name iid base methods d
  | .dispInterface name iid methods => scope.declareDispInterface name iid methods d
  | .coClass name clsid implemented => scope.declareCoClass name clsid implemented d
  | .enumeration name members => scope.declareEnumeration name members d
  | .struct name fields => d.add (.record (scope.names.identOf name) (scope.recordFields fields))
  | .typeAlias name target => d.add (.typeAlias (scope.names.identOf name) (scope.typeExpr target))
  | .constants name values =>
    d.add (.constants (scope.names.identOf name) (moduleConstants values))
  | .unsupported name construct =>
    (d.add (.comment true ("Unsupported \x60" ++ construct ++ "\x60 declaration."))).add
      (.hollow (scope.names.identOf name))

/-- The declarations of an item; a known symbol is only mentioned. -/
def declare (item : Item) (taken : List String) : Declared :=
  match scope.known.get? item.name with
  | some owner =>
    (Declared.start taken).add
      (.comment false ("\x60" ++ item.name ++ "\x60 is provided by " ++ owner ++ "."))
  | none => scope.declareItem item (.start taken)

/-- The declarations of items, one section for each. -/
def sections (taken : List String) : List Item → List (List Declaration)
  | [] => []
  | item :: rest =>
    let d := scope.declare item taken
    d.declarations :: sections d.taken rest

end Scope

end Typelib
