import Typelib.Proofs.Wrapper.Declaring
import Typelib.Proofs.Wrapper.Shadowing

/-!
# The own names of declarations

The names that stand at the top of a wrapper are the own names of its declarations.  Two things
hold of them whatever the keys of the items are.  An own name is no known symbol, since it was
assigned, or was free when it was declared (`Wrapper.not_known_of_isOwnName`).  And what is taken on
the way is declared (`Declared.Accounts`), so a name that is asked for is declared in the end, if
not under this item then under another (`Wrapper.member_declared`).
-/

namespace Typelib

theorem Declaration.ownName?_iff {d : Declaration} {name : String} :
    d.ownName? = some name ↔ name ∈ d.typeNames ++ d.valueNames := by
  cases d <;> simp [ownName?, typeNames, valueNames, eq_comm]

/-- Whether one of some declarations has a name for its own. -/
def IsOwnName (decls : List Declaration) (name : String) : Prop :=
  ∃ decl ∈ decls, decl.ownName? = some name

theorem IsOwnName.append_iff {decls others : List Declaration} {name : String} :
    IsOwnName (decls ++ others) name ↔ IsOwnName decls name ∨ IsOwnName others name := by
  simp only [IsOwnName, List.mem_append, or_and_right, exists_or]

theorem IsOwnName.singleton_iff {decl : Declaration} {name : String} :
    IsOwnName [decl] name ↔ decl.ownName? = some name := by
  simp only [IsOwnName, List.mem_singleton, exists_eq_left]

/-! ## Assigned names -/

namespace LocalNames

/-- Whether assigned names are the identifiers asked for or have an ending, and are no known
symbols. -/
structure ArePlain (known : Symbols) (names : LocalNames) : Prop where
  idents : ∀ {declared ident}, names.idents.get? declared = some ident →
    (ident = identifier declared ∨ IsMarked ident) ∧ known.contains ident = false
  vtables : ∀ {declared vtable}, names.vtables.get? declared = some vtable →
    IsMarked vtable ∧ known.contains vtable = false
  taken : known.keys ⊆ names.taken

variable {known : Symbols} {names : LocalNames} {items : Items} {name : String}

theorem not_known_of_not_mem {taken : List String} (h : known.keys ⊆ taken) (hname : name ∉ taken) :
    known.contains name = false := by
  by_contra hknown
  rw [Bool.not_eq_false, Table.contains_iff] at hknown
  exact hname (h hknown)

theorem ArePlain.claim (h : names.ArePlain known) (item : Item) :
    (claim known names item).ArePlain known := by
  by_cases hknown : known.contains item.name
  · rwa [claim_known hknown]
  · have hnovel : known.contains item.name = false := by simpa using hknown
    refine ⟨fun {declared ident} hget => ?_, fun {declared vtable} hget => ?_,
      fun name hname => subset_claim (h.taken hname)⟩
    · rw [idents_claim hnovel, Table.get?_insert] at hget
      split at hget
      · rename_i heq
        cases hget
        exact heq ▸ ⟨nextFree_eq_or_isMarked _ _,
          not_known_of_not_mem h.taken (nextFree_not_mem _ _)⟩
      · exact h.idents hget
    · rw [vtables_claim hnovel] at hget
      split at hget
      · rw [Table.get?_insert] at hget
        split at hget
        · cases hget
          exact ⟨nextFree_isMarked (.vtable _) _,
            not_known_of_not_mem (List.subset_cons_of_subset _ h.taken) (nextFree_not_mem _ _)⟩
        · exact h.vtables hget
      · exact h.vtables hget

theorem arePlain_assign (items : Items) (known : Symbols) :
    (assign items known).ArePlain known := by
  have hstart : (start known).ArePlain known :=
    ⟨fun h => absurd h (by simp [start]), fun h => absurd h (by simp [start]),
      List.Subset.refl _⟩
  have hfold (some : List Item) {names : LocalNames} (h : names.ArePlain known) :
      (some.foldl (LocalNames.claim known) names).ArePlain known := by
    induction some generalizing names with
    | nil => exact h
    | cons item rest ih => exact ih (h.claim item)
  exact hfold items.values hstart

/-- A name of an item is the identifier asked for or has an ending, and it is no known symbol. -/
theorem namesOf_plain {item : Item} (hitem : item ∈ items.novel known)
    (h : name ∈ (assign items known).namesOf item) :
    (name = identifier item.name ∨ IsMarked name) ∧ known.contains name = false := by
  have hplain := arePlain_assign items known
  rcases mem_namesOf.mp h with rfl | ⟨hinterface, rfl⟩
  · obtain ⟨ident, hident⟩ := Option.isSome_iff_exists.mp
      (contains_ident_assign.mpr ⟨item, hitem, rfl⟩)
    rw [identOf, hident, Option.getD_some]
    exact hplain.idents hident
  · obtain ⟨vtable, hvtable⟩ := Option.isSome_iff_exists.mp
      (contains_vtable_assign.mpr ⟨item, hitem, rfl, hinterface⟩)
    rw [vtableOf, hvtable, Option.getD_some]
    exact (hplain.vtables hvtable).imp_left .inr

end LocalNames

/-- An own name of an item is an assigned one or was free. -/
theorem Scope.Builds.own_name {scope : Scope} {item : Item} {taken given : List String}
    {d : Declared} {name : String} (h : scope.Builds item taken given d)
    (hname : IsOwnName d.declarations name) : name ∈ given ∨ name ∉ taken := by
  induction h with
  | start =>
    obtain ⟨decl, hdecl, -⟩ := hname
    cases hdecl
  | quiet _ htypes hvalues _ ih =>
    rcases IsOwnName.append_iff.mp hname with hname | hname
    · exact ih hname
    · rw [IsOwnName.singleton_iff, Declaration.ownName?_iff, htypes, hvalues] at hname
      cases hname
  | assigned _ htypes hvalues _ ih =>
    rcases IsOwnName.append_iff.mp hname with hname | hname
    · exact (ih hname).imp_left (List.mem_append_left _)
    · rw [IsOwnName.singleton_iff, Declaration.ownName?_iff, htypes] at hname
      refine .inl (List.mem_append_right _ ?_)
      exact (List.mem_append.mp hname).elim id fun hvalue => hvalues.subset hvalue
  | reserved _ htypes hvalues _ rest ih =>
    rcases IsOwnName.append_iff.mp hname with hname | hname
    · exact ih hname
    · rw [IsOwnName.singleton_iff, Declaration.ownName?_iff] at hname
      have heq := (List.mem_append.mp hname).elim (fun htype => (htypes _).subset htype)
        fun hvalue => (hvalues _).subset hvalue
      rw [List.mem_singleton.mp heq]
      exact .inr fun hmem => freeName_not_mem _ _ _ (rest.keeps hmem)

/-! ## Names that are taken on the way -/

namespace Declared

variable {scope : Scope} {taken : List String} {d : Declared}

/-- Whether every name that was taken on the way is declared. -/
def Accounts (taken : List String) (d : Declared) : Prop :=
  ∀ name ∈ d.taken, name ∈ taken ∨ IsOwnName d.declarations name

namespace Accounts

theorem start (taken : List String) : (start taken).Accounts taken := fun _ hname => .inl hname

theorem add (h : d.Accounts taken) (decl : Declaration) : (d.add decl).Accounts taken :=
  fun name hname => (h name hname).imp_right fun ⟨other, hother, hown⟩ =>
    ⟨other, mem_add hother, hown⟩

theorem reserve (h : d.Accounts taken) {preferred owner : String} {decl : String → Declaration}
    (hown : ∀ name, (decl name).ownName? = some name) :
    (d.reserve preferred owner decl).Accounts taken := by
  intro name hname
  rcases List.mem_cons.mp hname with rfl | hname
  · exact .inr ⟨_, List.mem_append_right _ List.mem_cons_self, hown _⟩
  · exact (h name hname).imp_right fun ⟨other, hother, hown⟩ =>
      ⟨other, List.mem_append_left _ hother, hown⟩

theorem withGuid (h : d.Accounts taken) (kind ident : String) (guid : Option Guid) :
    (scope.withGuid kind ident guid d).Accounts taken := by
  cases guid with
  | none => exact h
  | some value => exact h.reserve fun _ => rfl

theorem withChosen (h : d.Accounts taken) (ident ending : String) (choice : Option Implemented) :
    (scope.withChosen ident ending choice d).Accounts taken := by
  cases choice with
  | none => exact h
  | some i => exact h.reserve fun _ => rfl

theorem members (h : d.Accounts taken) (ident : String) (members : List (String × Int64)) :
    (members.foldl
      (fun d m => d.reserve (identifier m.1) ident fun constant => .member constant ident m.2)
      d).Accounts taken := by
  induction members generalizing d with
  | nil => exact h
  | cons m rest ih => exact ih (h.reserve fun _ => rfl)

end Accounts

theorem mem_taken_reserve (preferred owner : String) (decl : String → Declaration) :
    preferred ∈ (d.reserve preferred owner decl).taken := by
  by_cases h : preferred ∈ d.taken
  · exact List.mem_cons_of_mem _ h
  · have hfree : freeName d.taken preferred owner = preferred := if_neg h
    exact List.mem_cons.mpr (.inl hfree.symm)

/-- The identifiers of members are taken afterwards. -/
theorem mem_taken_members (ident : String) {members : List (String × Int64)} {name : String}
    (h : name ∈ d.taken ∨ ∃ m ∈ members, identifier m.1 = name) :
    name ∈ (members.foldl
      (fun d m => d.reserve (identifier m.1) ident fun constant => .member constant ident m.2)
      d).taken := by
  induction members generalizing d with
  | nil => simpa using h
  | cons m rest ih =>
    refine ih ?_
    rcases h with htaken | ⟨other, hother, rfl⟩
    · exact .inl (List.mem_cons_of_mem _ htaken)
    · rcases List.mem_cons.mp hother with rfl | hother
      · exact .inl (mem_taken_reserve _ _ _)
      · exact .inr ⟨other, hother, rfl⟩

end Declared

namespace Scope

variable {scope : Scope}

/-- What the declarations of an item take, they declare. -/
theorem accounts_declareItem (item : Item) (taken : List String) :
    (scope.declareItem item (.start taken)).Accounts taken := by
  have hstart : (Declared.start taken).Accounts taken := .start taken
  cases item with
  | interface name iid base methods => exact (((hstart.add _).add _).withGuid _ _ _).add _
  | dispInterface name iid methods =>
    simp only [declareItem, declareDispInterface]
    split
    · exact ((hstart.add _).add _).withGuid _ _ _
    · exact (((hstart.add _).add _).withGuid _ _ _).add _
  | coClass name clsid implemented =>
    simp only [declareItem, declareCoClass]
    refine .withChosen (.withChosen ?_ _ _ _) _ _ _
    split
    · exact ((hstart.add _).withGuid _ _ _).add _
    · exact (((hstart.add _).withGuid _ _ _).add _).add _
  | enumeration name members => exact ((hstart.add _).add _).members _ members
  | struct name fields => exact hstart.add _
  | typeAlias name target => exact hstart.add _
  | constants name values => exact hstart.add _
  | unsupported name construct => exact (hstart.add _).add _

theorem accounts_declare (item : Item) (taken : List String) :
    (scope.declare item taken).Accounts taken := by
  cases howner : scope.known.get? item.name with
  | some owner =>
    rw [declare_known howner]
    exact fun name hname => .inl hname
  | none =>
    rw [declare_novel scope (by simp [Table.contains, howner])]
    exact accounts_declareItem item taken

/-- When the turn of an item comes, the taken names are those taken at the start and some that the
sections declare. -/
theorem exists_section_accounted (scope : Scope) {items : List Item} {item : Item}
    (h : item ∈ items) (taken : List String) :
    ∃ before,
      (∀ name ∈ before, name ∈ taken ∨ IsOwnName (scope.sections taken items).flatten name) ∧
      (scope.declare item before).declarations ⊆ (scope.sections taken items).flatten := by
  induction items generalizing taken with
  | nil => cases h
  | cons first rest ih =>
    rcases List.mem_cons.mp h with rfl | h
    · exact ⟨taken, fun name hname => .inl hname, List.subset_append_left _ _⟩
    · obtain ⟨before, hbefore, hsection⟩ := ih h (scope.declare first taken).taken
      refine ⟨before, fun name hname => ?_, fun decl hdecl =>
        List.mem_append_right _ (hsection hdecl)⟩
      rcases hbefore name hname with htaken | ⟨decl, hdecl, hown⟩
      · refine (accounts_declare first taken name htaken).imp_right ?_
        exact fun ⟨decl, hdecl, hown⟩ => ⟨decl, List.mem_append_left _ hdecl, hown⟩
      · exact .inr ⟨decl, List.mem_append_right _ hdecl, hown⟩

end Scope

namespace Wrapper

variable {library : Identity} {items : Items} {known : Symbols} {source : Option Path}
  {name : String}

/-- The own names in a wrapper are its names among the types and the values. -/
theorem isOwnName_iff {w : Wrapper} :
    IsOwnName w.declarations name ↔ name ∈ w.typeNames ∨ name ∈ w.valueNames := by
  simp only [IsOwnName, Declaration.ownName?_iff, List.mem_append, typeNames, valueNames,
    List.mem_flatMap, ← exists_or, ← and_or_left]

/-- An own name is no known symbol. -/
theorem not_known_of_isOwnName
    (h : IsOwnName (ofItems library items known source).declarations name) :
    known.contains name = false := by
  have hkeys : known.keys ⊆ (LocalNames.assign items known).taken :=
    (LocalNames.arePlain_assign items known).taken
  obtain ⟨decl, hdecl, hown⟩ := h
  rcases mem_declarations_ofItems.mp hdecl with hdecl | ⟨ident, hplaceholder, hdecl⟩
  · obtain ⟨item, hvalue, before, hkeeps, hdecl⟩ := Scope.mem_sections hdecl
    rcases Scope.mem_declare hdecl with ⟨owner, -, rfl⟩ | ⟨hnovel, -⟩
    · cases hown
    · rw [Scope.declare_novel _ hnovel] at hdecl
      have hbuilds := Scope.builds_declareItem (.of library items known) item before
      rcases hbuilds.own_name ⟨decl, hdecl, hown⟩ with hgiven | hname
      · exact (LocalNames.namesOf_plain (Items.mem_novel.mpr ⟨hvalue, hnovel⟩) hgiven).2
      · exact LocalNames.not_known_of_not_mem (List.Subset.trans hkeys hkeeps) hname
  · simp only [placeholder, List.mem_cons, List.not_mem_nil, or_false] at hdecl
    rcases hdecl with rfl | rfl
    · cases hown
    · obtain rfl := Option.some.inj hown
      exact LocalNames.not_known_of_not_mem hkeys (mem_placeholders.mp hplaceholder).2.1

/-- The identifier of a member of an enumeration is declared, or it is known. -/
theorem member_declared (named : items.AreNamed) {members : List (String × Int64)}
    (h : .enumeration name members ∈ items.novel known) {m : String × Int64} (hm : m ∈ members) :
    known.contains (identifier m.1) ∨
      IsOwnName (ofItems library items known source).declarations (identifier m.1) := by
  obtain ⟨hvalue, hnovel⟩ := Items.mem_novel.mp h
  obtain ⟨before, hbefore, hsection⟩ :=
    (Scope.of library items known).exists_section_accounted hvalue
      (LocalNames.assign items known).taken
  rw [Scope.declare_novel (.of library items known) hnovel] at hsection
  have hdeclared {decl : Declaration} (hdecl : decl ∈ (itemSections library items known).flatten) :
      decl ∈ (ofItems library items known source).declarations :=
    mem_declarations_ofItems.mpr (.inl hdecl)
  have htaken : identifier m.1 ∈ ((Scope.of library items known).declareItem
      (.enumeration name members) (.start before)).taken :=
    Declared.mem_taken_members _ (.inr ⟨m, hm, rfl⟩)
  rcases Scope.accounts_declareItem _ before _ htaken with hearlier | ⟨decl, hdecl, hown⟩
  · rcases hbefore _ hearlier with hassigned | ⟨decl, hdecl, hown⟩
    · rcases (LocalNames.mem_taken_assign named).mp hassigned with hitem | hknown
      · right
        exact isOwnName_iff.mpr (.inl (assigned_subset_typeNames (Scope.mem_assigned.mpr hitem)))
      · exact .inl hknown
    · exact .inr ⟨decl, hdeclared hdecl, hown⟩
  · exact .inr ⟨decl, hdeclared (hsection hdecl), hown⟩

end Wrapper

end Typelib
