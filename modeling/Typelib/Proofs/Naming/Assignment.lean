import Typelib.Proofs.Naming.Free

/-!
# The assignment of identifiers

What one claim gives (`identOf_claim`, `vtableOf_claim`, `taken_claim`), and what the claims of all
items give.  A claim is final, since the items have different names: an item keeps what it got when
its turn came (`identOf_assign`, `vtableOf_assign`), and the taken names are the known symbols and
the names of the items that are no known symbols, all different (`taken_assign`, `nodup_assign`).
-/

namespace Typelib

/-- Where no two members of a list share a part, a part tells its member. -/
theorem eq_of_mem_of_nodup_flatMap {α β : Type} {f : α → List β} {xs : List α}
    (h : (xs.flatMap f).Nodup) {a b : α} (ha : a ∈ xs) (hb : b ∈ xs) {x : β} (hxa : x ∈ f a)
    (hxb : x ∈ f b) : a = b := by
  have hsymm : Std.Symm (Function.onFun List.Disjoint f) := ⟨fun _ _ h => List.Disjoint.symm h⟩
  by_contra hne
  exact (List.nodup_flatMap.mp h).2.forall ha hb hne hxa hxb

/-- The items that are no known symbols, which are the ones that a wrapper declares. -/
def Items.novel (items : Items) (known : Symbols) : List Item :=
  items.values.filter fun item => known.contains item.name = false

theorem Items.mem_novel {items : Items} {known : Symbols} {item : Item} :
    item ∈ items.novel known ↔ item ∈ items.values ∧ known.contains item.name = false := by
  simp [Items.novel]

/-- The keys of items are their names. -/
theorem Items.AreNamed.names_values {items : Items} (named : items.AreNamed) :
    items.values.map Item.name = items.keys := by
  simp only [Table.values, Table.keys, List.map_map]
  exact List.map_congr_left fun entry hentry => named entry hentry

theorem Items.AreNamed.distinct {items : Items} (named : items.AreNamed) :
    (items.values.map Item.name).Nodup := by
  rw [named.names_values]
  exact Table.distinct items

theorem Items.AreNamed.get?_name {items : Items} (named : items.AreNamed) {item : Item}
    (h : item ∈ items.values) : items.get? item.name = some item := by
  obtain ⟨entry, hentry, rfl⟩ := List.mem_map.mp h
  rw [Table.get?_eq_some_iff, named entry hentry]
  exact hentry

theorem Items.AreNamed.of_get? {items : Items} (named : items.AreNamed) {name : String}
    {item : Item} (h : items.get? name = some item) : item ∈ items.values ∧ item.name = name := by
  have hentry := Table.get?_eq_some_iff.mp h
  exact ⟨List.mem_map_of_mem hentry, named _ hentry⟩

namespace LocalNames

/-- The names of an item: its identifier, and that of the method structure of an interface. -/
def namesOf (names : LocalNames) (item : Item) : List String :=
  names.identOf item.name :: if item.isInterface then [names.vtableOf item.name] else []

theorem mem_namesOf {names : LocalNames} {item : Item} {name : String} :
    name ∈ names.namesOf item ↔
      name = names.identOf item.name ∨ item.isInterface ∧ name = names.vtableOf item.name := by
  by_cases h : item.isInterface <;> simp [namesOf, h]

theorem identOf_mem_namesOf (names : LocalNames) (item : Item) :
    names.identOf item.name ∈ names.namesOf item :=
  List.mem_cons_self

variable {known : Symbols} {names : LocalNames} {item : Item} {declared : String}

/-! ## One claim -/

theorem claim_known (h : known.contains item.name = true) : claim known names item = names :=
  if_pos h

theorem claim_novel (h : known.contains item.name = false) :
    claim known names item =
      if item.isInterface then (names.claimIdent item.name).claimVtable item.name
      else names.claimIdent item.name := by
  rw [claim, if_neg (by simp [h])]

theorem idents_claim (h : known.contains item.name = false) :
    (claim known names item).idents =
      names.idents.insert item.name (nextFree names.taken (identifier item.name)) := by
  rw [claim_novel h]
  by_cases hinterface : item.isInterface <;> simp [hinterface, claimIdent, claimVtable]

/-- An item gets the first free name made of its own. -/
theorem identOf_claim (names : LocalNames) (h : known.contains item.name = false) :
    (claim known names item).identOf item.name =
      nextFree names.taken (identifier item.name) := by
  simp [identOf, idents_claim h, Table.get?_insert]

theorem vtables_claim (h : known.contains item.name = false) :
    (claim known names item).vtables =
      if item.isInterface then
        names.vtables.insert item.name
          (nextFree ((claim known names item).identOf item.name :: names.taken)
            ((claim known names item).identOf item.name ++ "_Vtbl"))
      else names.vtables := by
  rw [identOf_claim names h, claim_novel h]
  by_cases hinterface : item.isInterface
  · simp [hinterface, claimIdent, claimVtable, Table.get?_insert]
  · simp [hinterface, claimIdent]

/-- An interface gets the first free name made of its identifier for its methods. -/
theorem vtableOf_claim (names : LocalNames) (h : known.contains item.name = false)
    (hinterface : item.isInterface) :
    (claim known names item).vtableOf item.name =
      nextFree ((claim known names item).identOf item.name :: names.taken)
        ((claim known names item).identOf item.name ++ "_Vtbl") := by
  rw [vtableOf, vtables_claim h, if_pos hinterface, Table.get?_insert, if_pos rfl, Option.getD_some]

/-- A claim takes the names of its item. -/
theorem taken_claim (h : known.contains item.name = false) :
    (claim known names item).taken =
      ((claim known names item).namesOf item).reverse ++ names.taken := by
  have hident := identOf_claim names h
  by_cases hinterface : item.isInterface
  · have hvtable := vtableOf_claim names h hinterface
    rw [namesOf, if_pos hinterface, hvtable, hident, claim_novel h, if_pos hinterface]
    simp [claimIdent, claimVtable, Table.get?_insert]
  · rw [namesOf, if_neg hinterface, hident, claim_novel h, if_neg hinterface]
    simp [claimIdent]

theorem nodup_claim (h : names.taken.Nodup) : (claim known names item).taken.Nodup := by
  have hident : (names.claimIdent item.name).taken.Nodup :=
    List.nodup_cons.mpr ⟨nextFree_not_mem _ _, h⟩
  unfold claim
  split
  · exact h
  · split
    · exact List.nodup_cons.mpr ⟨nextFree_not_mem _ _, hident⟩
    · exact hident

theorem subset_claim : names.taken ⊆ (claim known names item).taken := by
  intro name hname
  by_cases hknown : known.contains item.name
  · rwa [claim_known hknown]
  · rw [taken_claim (by simpa using hknown)]
    exact List.mem_append_right _ hname

theorem contains_ident_claim :
    (claim known names item).idents.contains declared ↔
      names.idents.contains declared ∨ item.name = declared ∧ known.contains item.name = false := by
  by_cases hknown : known.contains item.name
  · simp [claim_known hknown, hknown]
  · have hnovel : known.contains item.name = false := by simpa using hknown
    rw [idents_claim hnovel, Table.contains_iff, Table.contains_iff, Table.mem_keys_insert]
    simp only [hnovel, and_true, eq_comm, or_comm]

theorem contains_vtable_claim :
    (claim known names item).vtables.contains declared ↔
      names.vtables.contains declared ∨
        item.name = declared ∧ known.contains item.name = false ∧ item.isInterface := by
  by_cases hknown : known.contains item.name
  · simp [claim_known hknown, hknown]
  · have hnovel : known.contains item.name = false := by simpa using hknown
    rw [vtables_claim hnovel]
    by_cases hinterface : item.isInterface
    · rw [if_pos hinterface, Table.contains_iff, Table.contains_iff, Table.mem_keys_insert]
      simp only [hnovel, hinterface, and_true, eq_comm, or_comm]
    · simp [hinterface]

/-- A claim leaves the other names alone. -/
theorem idents_claim_of_ne (h : declared ≠ item.name) :
    (claim known names item).idents.get? declared = names.idents.get? declared := by
  by_cases hknown : known.contains item.name
  · rw [claim_known hknown]
  · rw [idents_claim (by simpa using hknown), Table.get?_insert, if_neg h]

theorem vtables_claim_of_ne (h : declared ≠ item.name) :
    (claim known names item).vtables.get? declared = names.vtables.get? declared := by
  by_cases hknown : known.contains item.name
  · rw [claim_known hknown]
  · rw [vtables_claim (by simpa using hknown)]
    by_cases hinterface : item.isInterface
    · rw [if_pos hinterface, Table.get?_insert, if_neg h]
    · rw [if_neg hinterface]

/-! ## The claims of several items -/

variable {items : List Item}

theorem idents_foldl (h : declared ∉ items.map Item.name) :
    (items.foldl (claim known) names).idents.get? declared = names.idents.get? declared := by
  induction items generalizing names with
  | nil => rfl
  | cons item rest ih =>
    obtain ⟨hne, hrest⟩ := not_or.mp (mt List.mem_cons.mpr h)
    rw [List.foldl_cons, ih hrest, idents_claim_of_ne hne]

theorem vtables_foldl (h : declared ∉ items.map Item.name) :
    (items.foldl (claim known) names).vtables.get? declared = names.vtables.get? declared := by
  induction items generalizing names with
  | nil => rfl
  | cons item rest ih =>
    obtain ⟨hne, hrest⟩ := not_or.mp (mt List.mem_cons.mpr h)
    rw [List.foldl_cons, ih hrest, vtables_claim_of_ne hne]

theorem identOf_foldl (h : declared ∉ items.map Item.name) :
    (items.foldl (claim known) names).identOf declared = names.identOf declared := by
  rw [identOf, idents_foldl h, identOf]

theorem vtableOf_foldl (h : declared ∉ items.map Item.name) :
    (items.foldl (claim known) names).vtableOf declared = names.vtableOf declared := by
  rw [vtableOf, vtables_foldl h, identOf_foldl h, vtableOf]

theorem namesOf_foldl (h : item.name ∉ items.map Item.name) :
    (items.foldl (claim known) names).namesOf item = names.namesOf item := by
  rw [namesOf, identOf_foldl h, vtableOf_foldl h, namesOf]

/-- Items with different names take their names, and nothing else is taken. -/
theorem taken_foldl (distinct : (items.map Item.name).Nodup) :
    (items.foldl (claim known) names).taken =
      ((items.filter fun item => known.contains item.name = false).flatMap
        (items.foldl (claim known) names).namesOf).reverse ++ names.taken := by
  induction items generalizing names with
  | nil => rfl
  | cons item rest ih =>
    obtain ⟨hfirst, hrest⟩ := List.nodup_cons.mp distinct
    rw [List.foldl_cons, ih hrest]
    by_cases hknown : known.contains item.name
    · simp [hknown, claim_known]
    · have hnovel : known.contains item.name = false := by simpa using hknown
      simp [hnovel, taken_claim hnovel, namesOf_foldl hfirst]

theorem nodup_foldl (h : names.taken.Nodup) : (items.foldl (claim known) names).taken.Nodup := by
  induction items generalizing names with
  | nil => exact h
  | cons item rest ih => exact ih (nodup_claim h)

theorem contains_ident_foldl :
    (items.foldl (claim known) names).idents.contains declared ↔
      names.idents.contains declared ∨
        ∃ item ∈ items, item.name = declared ∧ known.contains item.name = false := by
  induction items generalizing names with
  | nil => simp
  | cons item rest ih =>
    rw [List.foldl_cons, ih, contains_ident_claim, or_assoc]
    simp only [List.mem_cons, exists_eq_or_imp]

theorem contains_vtable_foldl :
    (items.foldl (claim known) names).vtables.contains declared ↔
      names.vtables.contains declared ∨
        ∃ item ∈ items,
          item.name = declared ∧ known.contains item.name = false ∧ item.isInterface := by
  induction items generalizing names with
  | nil => simp
  | cons item rest ih =>
    rw [List.foldl_cons, ih, contains_vtable_claim, or_assoc]
    simp only [List.mem_cons, exists_eq_or_imp]

theorem subset_foldl : names.taken ⊆ (items.foldl (claim known) names).taken := by
  induction items generalizing names with
  | nil => exact fun name hname => hname
  | cons item rest ih => exact fun name hname => ih (subset_claim hname)

/-! ## The claims of the items of a library -/

section Assign

variable {items : Items}

/-- The names as they are when the turn of an item comes. -/
def before (items : Items) (known : Symbols) (declared : String) : LocalNames :=
  (items.values.takeWhile fun item => item.name ≠ declared).foldl (claim known) (start known)

/-- An item's turn is followed by claims of items with other names. -/
theorem assign_eq_before (known : Symbols) (named : items.AreNamed) (hitem : item ∈ items.values) :
    ∃ later : List Item, item.name ∉ later.map Item.name ∧
      assign items known =
        later.foldl (claim known) (claim known (before items known item.name) item) := by
  obtain ⟨earlier, later, hvalues⟩ := List.append_of_mem hitem
  have hdistinct := named.distinct
  rw [hvalues, List.map_append, List.map_cons, List.nodup_append, List.nodup_cons] at hdistinct
  obtain ⟨-, ⟨hlater, -⟩, hacross⟩ := hdistinct
  have hearlier : ∀ other ∈ earlier, other.name ≠ item.name := fun other hother =>
    hacross _ (List.mem_map_of_mem hother) _ List.mem_cons_self
  have htakeWhile : items.values.takeWhile (fun other => other.name ≠ item.name) = earlier := by
    rw [hvalues, List.takeWhile_append_of_pos (by simpa using hearlier)]
    simp
  refine ⟨later, hlater, ?_⟩
  rw [assign, before, htakeWhile, hvalues, List.foldl_append, List.foldl_cons]

/-- An item has the identifier that was free when its turn came. -/
theorem identOf_assign (named : items.AreNamed) (hitem : item ∈ items.novel known) :
    (assign items known).identOf item.name =
      nextFree (before items known item.name).taken (identifier item.name) := by
  obtain ⟨hvalue, hnovel⟩ := Items.mem_novel.mp hitem
  obtain ⟨later, hlater, heq⟩ := assign_eq_before known named hvalue
  rw [heq, identOf_foldl hlater, identOf_claim _ hnovel]

/-- The method structure of an interface has the identifier that was free when its turn came. -/
theorem vtableOf_assign (named : items.AreNamed) (hitem : item ∈ items.novel known)
    (hinterface : item.isInterface) :
    (assign items known).vtableOf item.name =
      nextFree ((assign items known).identOf item.name :: (before items known item.name).taken)
        ((assign items known).identOf item.name ++ "_Vtbl") := by
  obtain ⟨hvalue, hnovel⟩ := Items.mem_novel.mp hitem
  obtain ⟨later, hlater, heq⟩ := assign_eq_before known named hvalue
  rw [heq, vtableOf_foldl hlater, identOf_foldl hlater, vtableOf_claim _ hnovel hinterface]

/-- The items that are no known symbols have identifiers. -/
theorem contains_ident_assign :
    (assign items known).idents.contains declared ↔
      ∃ item ∈ items.novel known, item.name = declared := by
  have hempty : (start known).idents.contains declared = false := rfl
  simp only [assign, contains_ident_foldl, hempty, Items.mem_novel, Bool.false_eq_true, false_or]
  grind

/-- The interfaces among them have one for the structure of their methods. -/
theorem contains_vtable_assign :
    (assign items known).vtables.contains declared ↔
      ∃ item ∈ items.novel known, item.name = declared ∧ item.isInterface := by
  have hempty : (start known).vtables.contains declared = false := rfl
  simp only [assign, contains_vtable_foldl, hempty, Items.mem_novel, Bool.false_eq_true, false_or]
  grind

theorem taken_assign (named : items.AreNamed) :
    (assign items known).taken =
      ((items.novel known).flatMap (assign items known).namesOf).reverse ++ known.keys :=
  taken_foldl named.distinct

theorem mem_taken_assign (named : items.AreNamed) {name : String} :
    name ∈ (assign items known).taken ↔
      (∃ item ∈ items.novel known, name ∈ (assign items known).namesOf item) ∨
        known.contains name := by
  rw [taken_assign named, List.mem_append, List.mem_reverse, List.mem_flatMap, Table.contains_iff]

/-- No name is given twice, and no known symbol is given. -/
theorem nodup_assign (items : Items) (known : Symbols) : (assign items known).taken.Nodup :=
  nodup_foldl (Table.distinct known)

theorem nodup_namesOf (named : items.AreNamed) :
    ((items.novel known).flatMap (assign items known).namesOf).Nodup := by
  have hnodup := nodup_assign items known
  rw [taken_assign named, List.nodup_append, List.nodup_reverse] at hnodup
  exact hnodup.1

/-- A name is the name of one item. -/
theorem eq_of_mem_namesOf (named : items.AreNamed) {other : Item} (hitem : item ∈ items.novel known)
    (hother : other ∈ items.novel known) {name : String}
    (hname : name ∈ (assign items known).namesOf item)
    (hname' : name ∈ (assign items known).namesOf other) : item = other :=
  eq_of_mem_of_nodup_flatMap (nodup_namesOf named) hitem hother hname hname'

theorem not_known_of_mem_namesOf (named : items.AreNamed) (hitem : item ∈ items.novel known)
    {name : String} (hname : name ∈ (assign items known).namesOf item) :
    known.contains name = false := by
  have hnodup := nodup_assign items known
  rw [taken_assign named, List.nodup_append] at hnodup
  by_contra hknown
  refine hnodup.2.2 name ?_ name (Table.contains_iff.mp (by simpa using hknown)) rfl
  exact List.mem_reverse.mpr (List.mem_flatMap.mpr ⟨item, hitem, hname⟩)

/-- The names taken before an item's turn stay taken. -/
theorem before_subset (named : items.AreNamed) (hitem : item ∈ items.novel known) :
    (before items known item.name).taken ⊆ (assign items known).taken := by
  obtain ⟨hvalue, -⟩ := Items.mem_novel.mp hitem
  obtain ⟨later, -, heq⟩ := assign_eq_before known named hvalue
  rw [heq]
  exact fun name hname => subset_foldl (subset_claim hname)

end Assign

end LocalNames

end Typelib
