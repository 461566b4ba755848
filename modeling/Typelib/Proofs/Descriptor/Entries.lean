import Typelib.Proofs.Descriptor

/-!
# The items that entries are read as

`Descriptor.items` reads the entries one after the other, and the item of an entry depends on that
entry alone (`Descriptor.ReadAs`).  Entries of distinct names are all read; otherwise the first
entry that offends is reported (`Descriptor.Offends`).  `Descriptor.items_read` states both.
-/

namespace Typelib

namespace Item

open Json

variable {members : List (String × Json)} {kind : String} {item : Item}

/-- An item that is read from an object has the name that stands there. -/
theorem lookup_name_of_ofContent? (h : ofContent? kind (.object members) = some item) :
    required string? (members.lookup "name") = some item.name := by
  -- one case for each kind, in the order of the reader: an interface has four fields, a dispatch
  -- interface and a class have three, any other kind has two
  unfold ofContent? at h
  split at h
  all_goals
    simp only [record?, List.map_cons, List.map_nil, Option.bind_eq_bind, Option.bind_eq_some_iff,
      Option.some.injEq, reduceCtorEq] at h
  case h_1 =>
    obtain ⟨name, hname, iid, -, base, -, methods, -, rfl⟩ := h
    exact hname
  case h_2 | h_3 =>
    obtain ⟨name, hname, iid, -, methods, -, rfl⟩ := h
    exact hname
  case h_4 | h_5 | h_6 | h_7 | h_8 =>
    obtain ⟨name, hname, content, -, rfl⟩ := h
    exact hname

end Item

namespace Descriptor

/-- An object with a text as its name. -/
def IsNamed (entry : Json) (name : String) : Prop :=
  ∃ members, entry = .object members ∧ members.lookup "name" = some (.string name)

/-- The name and the item that an entry is read as: the item it declares, or a stub when it
declares none or one that is not supported. -/
inductive ReadAs (entry : Json) : String × Item → Prop
  | declared {item : Item} (hname : IsNamed entry item.name)
      (hread : Item.ofJson? entry = some item) (hsupported : item.isSupported) :
      ReadAs entry (item.name, item)
  | stub {name : String} (hname : IsNamed entry name)
      (hread : ∀ item, Item.ofJson? entry = some item → item.isSupported = false) :
      ReadAs entry (name, .unsupported name (constructOf entry))

/-- Entries that all have a name, no two of them the same. -/
structure AreDistinctlyNamed (entries : List Json) : Prop where
  named : ∀ entry ∈ entries, ∃ name, IsNamed entry name
  distinct : entries.Pairwise fun a b => ∀ name, IsNamed a name → ¬ IsNamed b name

/-- What is wrong with an entry that stands behind others. -/
inductive Offends (before : List Json) (entry : Json) : EntryFault → Prop
  | notObject (h : ∀ members, entry ≠ .object members) :
      Offends before entry (.notObject before.length)
  | unnamed {members : List (String × Json)} (h : entry = .object members)
      (hname : ∀ name, members.lookup "name" ≠ some (.string name)) :
      Offends before entry (.unnamed before.length)
  | repeated {name : String} (hname : IsNamed entry name)
      (hbefore : ∃ earlier ∈ before, IsNamed earlier name) : Offends before entry (.repeated name)

/-! ## One entry -/

section Entry

variable {entry : Json} {name : String} {item : Item}

theorem IsNamed.unique {other : String} (h : IsNamed entry name) (hother : IsNamed entry other) :
    name = other := by
  obtain ⟨members, rfl, hname⟩ := h
  obtain ⟨_, heq, hname'⟩ := hother
  obtain rfl := Json.object.inj heq
  rw [hname, Option.some.injEq, Json.string.injEq] at hname'
  exact hname'

theorem IsNamed.entryName?_eq (h : IsNamed entry name) (index : Nat) :
    entryName? index entry = .ok name := by
  obtain ⟨members, rfl, hname⟩ := h
  simp [entryName?, Json.member?, hname, Json.string?]

theorem entryName?_of_not_object {index : Nat} (h : ∀ members, entry ≠ .object members) :
    entryName? index entry = .error (.notObject index) := by
  cases entry with
  | object members => exact absurd rfl (h members)
  | _ => rfl

theorem entryName?_of_unnamed {index : Nat} {members : List (String × Json)}
    (h : ∀ name, members.lookup "name" ≠ some (.string name)) :
    entryName? index (.object members) = .error (.unnamed index) := by
  have hnone : (members.lookup "name").bind Json.string? = none := by
    refine Option.bind_eq_none_iff.mpr fun j hj => ?_
    cases j with
    | string name => exact absurd hj (h name)
    | _ => rfl
  simp [entryName?, Json.member?, hnone]

/-- An item that is read from an entry has the name of the entry. -/
theorem IsNamed.name_eq (h : IsNamed entry name) (hread : Item.ofJson? entry = some item) :
    item.name = name := by
  obtain ⟨members, rfl, hname⟩ := h
  obtain ⟨kind, -, hcontent⟩ := Option.bind_eq_some_iff.mp hread
  have hitem := Item.lookup_name_of_ofContent? hcontent
  rw [hname] at hitem
  exact (Option.some.inj hitem).symm

theorem readAs_iff : ReadAs entry (name, item) ↔ IsNamed entry name ∧ itemOf name entry = item := by
  constructor
  · intro h
    cases h with
    | declared hname hread hsupported => exact ⟨hname, by simp [itemOf, hread, hsupported]⟩
    | stub hname hread =>
      refine ⟨hname, ?_⟩
      rw [itemOf]
      split
      · rename_i item hitem
        simp [hread item hitem]
      · rfl
  · rintro ⟨hname, rfl⟩
    rw [itemOf]
    split
    · rename_i item hitem
      obtain rfl := hname.name_eq hitem
      by_cases hsupported : item.isSupported
      · rw [if_pos hsupported]
        exact .declared hname hitem hsupported
      · rw [if_neg hsupported]
        refine .stub hname fun other hother => ?_
        rw [hitem, Option.some.injEq] at hother
        simpa [← hother] using hsupported
    · rename_i hitem
      refine .stub hname fun other hother => ?_
      rw [hitem] at hother
      cases hother

/-- What an entry is read as depends on that entry alone. -/
theorem readAs_unique : Relator.RightUnique ReadAs := by
  intro entry ⟨name, item⟩ ⟨name', item'⟩ h h'
  obtain ⟨hname, rfl⟩ := readAs_iff.mp h
  obtain ⟨hname', rfl⟩ := readAs_iff.mp h'
  rw [hname.unique hname']

theorem ReadAs.name_eq (h : ReadAs entry (name, item)) : item.name = name := by
  cases h with
  | declared => rfl
  | stub => rfl

/-- An entry either has a name that no entry before it has, or offends. -/
theorem isNamed_or_offends (before : List Json) (entry : Json) :
    (∃ name, IsNamed entry name ∧ ∀ earlier ∈ before, ¬ IsNamed earlier name) ∨
      ∃ fault, Offends before entry fault := by
  by_cases hobject : ∃ members, entry = .object members
  · obtain ⟨members, rfl⟩ := hobject
    by_cases hnamed : ∃ name, members.lookup "name" = some (.string name)
    · obtain ⟨name, hname⟩ := hnamed
      by_cases hbefore : ∃ earlier ∈ before, IsNamed earlier name
      · exact .inr ⟨_, .repeated ⟨members, rfl, hname⟩ hbefore⟩
      · exact .inl ⟨name, ⟨members, rfl, hname⟩, by simpa using hbefore⟩
    · exact .inr ⟨_, .unnamed rfl (not_exists.mp hnamed)⟩
  · exact .inr ⟨_, .notObject (not_exists.mp hobject)⟩

end Entry

/-! ## Several entries -/

/-- The entries that were read so far are the items that were collected. -/
def AreRead (before : List Json) (items : Items) : Prop := List.Forall₂ ReadAs before items.entries

section Entries

variable {before : List Json} {entry : Json} {items : Items}

theorem AreRead.unique {table : Items} (h : AreRead before items) (htable : AreRead before table) :
    items = table := by
  have hentries : items.entries = table.entries := readAs_unique.forall₂ h htable
  cases items
  cases table
  simpa using hentries

/-- The names of the entries are the keys of the items. -/
theorem AreRead.forall₂_isNamed (h : AreRead before items) :
    List.Forall₂ IsNamed before items.keys := by
  rw [Table.keys, List.forall₂_map_right_iff]
  exact h.imp fun entry pair hread => (readAs_iff.mp hread).1

theorem exists_isNamed_iff {names : List String} (h : List.Forall₂ IsNamed before names)
    {name : String} : (∃ entry ∈ before, IsNamed entry name) ↔ name ∈ names := by
  induction h with
  | nil => simp
  | @cons first firstName _ _ hfirst _ ih =>
    have hiff : IsNamed first name ↔ name = firstName :=
      ⟨fun hname => hname.unique hfirst, fun heq => heq ▸ hfirst⟩
    rw [List.mem_cons, ← ih, ← hiff]
    simp

theorem areDistinctlyNamed_of_forall₂ {names : List String}
    (h : List.Forall₂ IsNamed before names) (distinct : names.Nodup) :
    AreDistinctlyNamed before := by
  induction h with
  | nil => exact ⟨by simp, .nil⟩
  | @cons first firstName rest restNames hfirst hrest ih =>
    rw [List.nodup_cons] at distinct
    obtain ⟨hnew, hnodup⟩ := distinct
    refine ⟨List.forall_mem_cons.mpr ⟨⟨_, hfirst⟩, (ih hnodup).named⟩,
      List.pairwise_cons.mpr ⟨fun other hother name hname hname' => hnew ?_, (ih hnodup).distinct⟩⟩
    rw [hfirst.unique hname]
    exact (exists_isNamed_iff hrest).mp ⟨other, hother, hname'⟩

theorem name_eq_of_forall₂ {pairs : List (String × Item)} (h : List.Forall₂ ReadAs before pairs) :
    ∀ pair ∈ pairs, pair.2.name = pair.1 := by
  induction h with
  | nil => simp
  | cons hfirst _ ih => exact List.forall_mem_cons.mpr ⟨hfirst.name_eq, ih⟩

theorem AreRead.areDistinctlyNamed (h : AreRead before items) : AreDistinctlyNamed before :=
  areDistinctlyNamed_of_forall₂ h.forall₂_isNamed items.distinct

theorem AreRead.contains_iff (h : AreRead before items) {name : String} :
    items.contains name ↔ ∃ earlier ∈ before, IsNamed earlier name := by
  rw [Table.contains_iff, exists_isNamed_iff h.forall₂_isNamed]

/-- An entry with a new name is read behind the others. -/
theorem AreRead.itemsFrom_cons {name : String} (h : AreRead before items)
    (hname : IsNamed entry name) (hnew : ∀ earlier ∈ before, ¬ IsNamed earlier name) :
    AreRead (before ++ [entry]) (items.insert name (itemOf name entry)) ∧
      ∀ rest, itemsFrom before.length items (entry :: rest) =
        itemsFrom (before ++ [entry]).length (items.insert name (itemOf name entry)) rest := by
  have hcontains : ¬ items.contains name := by
    rw [h.contains_iff]
    simpa using hnew
  constructor
  · rw [AreRead, Table.entries_insert_of_notMem (by rwa [← Table.contains_iff])]
    exact List.rel_append h (.cons (readAs_iff.mpr ⟨hname, rfl⟩) .nil)
  · intro rest
    simp [itemsFrom, hname.entryName?_eq, hcontains]

/-- An entry that offends is reported, whatever comes after it. -/
theorem AreRead.itemsFrom_offends {fault : EntryFault} (h : AreRead before items)
    (hoffends : Offends before entry fault) (rest : List Json) :
    itemsFrom before.length items (entry :: rest) = .error fault := by
  cases hoffends with
  | notObject hobject => rw [itemsFrom, entryName?_of_not_object hobject]
  | unnamed hobject hnamed =>
    rw [itemsFrom, hobject, entryName?_of_unnamed hnamed]
  | repeated hname hbefore =>
    rw [itemsFrom, hname.entryName?_eq]
    simp [h.contains_iff, hbefore]

/-- Entries of distinct names do not offend. -/
theorem AreDistinctlyNamed.not_offends {after : List Json} {fault : EntryFault}
    (h : AreDistinctlyNamed (before ++ entry :: after)) : ¬ Offends before entry fault := by
  obtain ⟨name, members, rfl, hlookup⟩ := h.named entry (by simp)
  intro hoffends
  cases hoffends with
  | notObject hobject => exact hobject members rfl
  | unnamed hobject hnamed =>
    obtain rfl := Json.object.inj hobject
    exact hnamed name hlookup
  | repeated hname hbefore =>
    obtain ⟨earlier, hmem, hearlier⟩ := hbefore
    exact (List.pairwise_append.mp h.distinct).2.2 earlier hmem _ (by simp) _ hearlier hname

/-- Entries are read to the end or up to the first that offends. -/
theorem AreRead.itemsFrom_cases (rest : List Json) (h : AreRead before items) :
    (∃ table, itemsFrom before.length items rest = .ok table ∧ AreRead (before ++ rest) table) ∨
      ∃ front entry after fault, rest = front ++ entry :: after ∧
        AreDistinctlyNamed (before ++ front) ∧ Offends (before ++ front) entry fault ∧
        itemsFrom before.length items rest = .error fault := by
  -- the entries that were read go over to `before`, and their items to `items`
  induction rest generalizing before items with
  | nil => exact .inl ⟨items, rfl, by simpa using h⟩
  | cons entry rest ih =>
    rcases isNamed_or_offends before entry with ⟨name, hname, hnew⟩ | ⟨fault, hoffends⟩
    · obtain ⟨hread, hstep⟩ := h.itemsFrom_cons hname hnew
      rw [hstep]
      rcases ih hread with ⟨table, htable, hall⟩ | ⟨front, next, after, fault, rfl, hfront, hfault⟩
      · exact .inl ⟨table, htable, by simpa using hall⟩
      · exact .inr ⟨entry :: front, next, after, fault, rfl, by simpa using hfront,
          by simpa using hfault⟩
    · exact .inr ⟨[], entry, rest, fault, rfl, by simpa using h.areDistinctlyNamed,
        by simpa using hoffends, h.itemsFrom_offends hoffends rest⟩

end Entries

/-- Entries behind those that were read are read after them. -/
theorem itemsFrom_append {before : List Json} {items table : Items} {index : Nat}
    (h : itemsFrom index items before = .ok table) (rest : List Json) :
    itemsFrom index items (before ++ rest) = itemsFrom (index + before.length) table rest := by
  induction before generalizing index items with
  | nil =>
    cases h
    rfl
  | cons entry before ih =>
    rw [itemsFrom] at h
    rw [List.cons_append, itemsFrom]
    split at h
    · cases h
    · rename_i name hname
      split at h
      · cases h
      · rename_i hnew
        have hlength : index + 1 + before.length = index + (entry :: before).length := by
          rw [List.length_cons]
          omega
        rw [if_neg hnew, ih h, hlength]

theorem read_or_offends (entries : List Json) :
    (∃ table, itemsFrom 0 .empty entries = .ok table ∧ AreRead entries table) ∨
      ∃ before entry after fault, entries = before ++ entry :: after ∧ AreDistinctlyNamed before ∧
        Offends before entry fault ∧ itemsFrom 0 .empty entries = .error fault := by
  have hnothing : AreRead [] .empty := .nil
  exact hnothing.itemsFrom_cases entries

/-- Entries of distinct names are all read. -/
theorem AreDistinctlyNamed.exists_areRead {entries : List Json} (h : AreDistinctlyNamed entries) :
    ∃ table, itemsFrom 0 .empty entries = .ok table ∧ AreRead entries table := by
  rcases read_or_offends entries with hread | hfault
  · exact hread
  · obtain ⟨before, entry, after, fault, rfl, -, hoffends, -⟩ := hfault
    exact absurd hoffends h.not_offends

theorem itemsFrom_eq_ok_iff {entries : List Json} {table : Items} :
    itemsFrom 0 .empty entries = .ok table ↔ AreRead entries table := by
  constructor
  · intro h
    rcases read_or_offends entries with ⟨other, hread, hall⟩ | hfault
    · rw [h, Except.ok.injEq] at hread
      exact hread ▸ hall
    · obtain ⟨_, _, _, fault, -, -, -, hread⟩ := hfault
      rw [h] at hread
      cases hread
  · intro h
    obtain ⟨other, hread, hall⟩ := h.areDistinctlyNamed.exists_areRead
    rw [hread, hall.unique h]

theorem itemsFrom_eq_error_iff {entries : List Json} {fault : EntryFault} :
    itemsFrom 0 .empty entries = .error fault ↔ ∃ before entry after,
      entries = before ++ entry :: after ∧ AreDistinctlyNamed before ∧
        Offends before entry fault := by
  constructor
  · intro h
    rcases read_or_offends entries with ⟨table, hread, -⟩ | hfault
    · rw [h] at hread
      cases hread
    · obtain ⟨before, entry, after, other, hentries, hbefore, hoffends, hread⟩ := hfault
      rw [h, Except.error.injEq] at hread
      exact ⟨before, entry, after, hentries, hbefore, hread ▸ hoffends⟩
  · rintro ⟨before, entry, after, rfl, hbefore, hoffends⟩
    obtain ⟨table, hread, hall⟩ := hbefore.exists_areRead
    rw [itemsFrom_append hread, Nat.zero_add, hall.itemsFrom_offends hoffends]

theorem items_eq_ok_iff {d : Descriptor} {table : Items} :
    d.items = .ok table ↔ AreRead d.entries table := by
  rw [← itemsFrom_eq_ok_iff, items]
  cases itemsFrom 0 .empty d.entries <;> simp [Except.mapError]

theorem items_eq_error_iff {d : Descriptor} {e : CorruptDescriptor} :
    d.items = .error e ↔
      e.libid = d.identity.libid ∧ itemsFrom 0 .empty d.entries = .error e.fault := by
  rw [items]
  obtain ⟨libid, fault⟩ := e
  cases itemsFrom 0 .empty d.entries <;> simp [Except.mapError, eq_comm]

/-- The items of a library are there exactly if its entries have distinct names.  They are then
what the entries are read as, each by itself, in the order of the entries and each under its own
name; otherwise the library is reported with the first of its entries that offends. -/
theorem items_read (d : Descriptor) :
    ((∃ table, d.items = .ok table) ↔ AreDistinctlyNamed d.entries) ∧
    (∀ table, d.items = .ok table ↔ List.Forall₂ ReadAs d.entries table.entries) ∧
    (∀ table, d.items = .ok table →
      List.Forall₂ IsNamed d.entries table.keys ∧ table.AreNamed) ∧
    ∀ e, d.items = .error e ↔ e.libid = d.identity.libid ∧
      ∃ before entry after, d.entries = before ++ entry :: after ∧ AreDistinctlyNamed before ∧
        Offends before entry e.fault := by
  refine ⟨⟨?_, fun h => ?_⟩, fun table => items_eq_ok_iff, fun table h => ⟨?_, ?_⟩, fun e => ?_⟩
  · rintro ⟨table, h⟩
    exact (items_eq_ok_iff.mp h).areDistinctlyNamed
  · obtain ⟨table, -, hall⟩ := h.exists_areRead
    exact ⟨table, items_eq_ok_iff.mpr hall⟩
  · exact (items_eq_ok_iff.mp h).forall₂_isNamed
  · exact name_eq_of_forall₂ (items_eq_ok_iff.mp h)
  · rw [items_eq_error_iff, itemsFrom_eq_error_iff]

/-- A declaration, one of a kind that is not supported, and one without a kind. -/
def mixed : Descriptor :=
  { bare ⟨⟨1⟩, 1, 0, 0⟩ with
    entries := [.object [("kind", .string "enum"), ("name", .string "Shade")],
      .object [("kind", .string "union"), ("name", .string "Either")],
      .object [("name", .string "Plain")]] }

theorem items_read_mixed :
    (∃ table, mixed.items = .ok table ∧ table.AreNamed ∧
      table.entries = [("Shade", .enumeration "Shade" []),
        ("Either", .unsupported "Either" "union"),
        ("Plain", .unsupported "Plain" "<missing kind>")]) ∧
    (mixed.withEntry (.object [("name", .string "Shade")])).items =
      .error ⟨⟨1⟩, .repeated "Shade"⟩ := by
  constructor
  · have hread : ∃ table, mixed.items = .ok table ∧ table.entries =
        [("Shade", .enumeration "Shade" []), ("Either", .unsupported "Either" "union"),
          ("Plain", .unsupported "Plain" "<missing kind>")] := ⟨_, rfl, rfl⟩
    obtain ⟨table, hread, hentries⟩ := hread
    exact ⟨table, hread, ((items_read mixed).2.2.1 table hread).2, hentries⟩
  · have hnamed : AreDistinctlyNamed mixed.entries := (items_read mixed).1.mp ⟨_, rfl⟩
    have hrepeated : Offends mixed.entries (.object [("name", .string "Shade")])
        (.repeated "Shade") :=
      .repeated ⟨_, rfl, rfl⟩ ⟨_, List.mem_cons_self, _, rfl, rfl⟩
    exact ((items_read _).2.2.2 _).mpr ⟨rfl, mixed.entries, _, [], rfl, hnamed, hrepeated⟩

end Descriptor

end Typelib
