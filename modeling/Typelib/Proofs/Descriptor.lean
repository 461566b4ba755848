import Typelib.Descriptor
import Typelib.Proofs.Item.Reading
import Typelib.Proofs.Table

/-!
# A library built from items has these items

`Descriptor.withItem` writes an item at the end of a descriptor, `Descriptor.items` reads the
entries again.  For items of distinct names the two undo each other up to `Item.asRead`
(`Descriptor.items_foldl_withItem`): an unsupported item stands for its kind, not for the
construct it was made for, and so does a module with a constant that is no finite number.
-/

namespace Typelib

namespace Item

/-- What an item is after it was written and read: itself, or the stub of its kind. -/
def asRead (item : Item) : Item :=
  if item.isSupported && item.isFinite then item else unsupported item.name item.kind

theorem asRead_eq_self {item : Item} (supported : item.isSupported) (finite : item.isFinite) :
    item.asRead = item := by
  simp [asRead, supported, finite]

end Item

namespace Descriptor

theorem entries_foldl_withItem (items : List Item) (d : Descriptor) :
    (items.foldl withItem d).entries = d.entries ++ items.map Item.toJson := by
  induction items generalizing d with
  | nil => simp
  | cons item rest ih => simp [ih, withItem, withEntry]

theorem entryName?_toJson (index : Nat) (item : Item) :
    entryName? index item.toJson = .ok item.name := by
  have hname := item.member?_name
  cases item <;> simp_all [entryName?, Item.toJson, Json.string?]

theorem itemOf_toJson (item : Item) : itemOf item.name item.toJson = item.asRead := by
  have hconstruct : constructOf item.toJson = item.kind := by
    simp [constructOf, Item.member?_kind, Json.string?]
  cases hfinite : item.isFinite <;>
    simp [itemOf, Item.asRead, Item.ofJson?_toJson, hfinite, hconstruct]

/-- Written items are read behind those that were read before them. -/
theorem itemsFrom_toJson (items : List Item) (index : Nat) (before : Items)
    (distinct : (before.keys ++ items.map Item.name).Nodup) :
    ∃ table, itemsFrom index before (items.map Item.toJson) = .ok table ∧
      table.entries = before.entries ++ items.map fun item => (item.name, item.asRead) := by
  induction items generalizing index before with
  | nil => exact ⟨before, rfl, by simp⟩
  | cons item rest ih =>
    have hnew : item.name ∉ before.keys := fun found =>
      List.disjoint_of_nodup_append distinct found (List.mem_map_of_mem List.mem_cons_self)
    have hentries := Table.entries_insert_of_notMem hnew item.asRead
    have hkeys : (before.insert item.name item.asRead).keys = before.keys ++ [item.name] := by
      simp [Table.keys, hentries]
    obtain ⟨table, hread, htable⟩ := ih (index + 1) (before.insert item.name item.asRead)
      (by simpa [hkeys] using distinct)
    refine ⟨table, ?_, by simp [htable, hentries]⟩
    simp [itemsFrom, entryName?_toJson, Table.contains_iff, hnew, itemOf_toJson, hread]

/-- The items of a library that was built from items of distinct names are these items, in this
order and each under its own name.  The stub of an unsupported item keeps its name. -/
theorem items_foldl_withItem (identity : Identity) (name doc : Option String) (items : List Item)
    (distinct : (items.map Item.name).Nodup) :
    ∃ table, (items.foldl withItem { bare identity with name, doc }).items = .ok table ∧
      table.entries = items.map (fun item => (item.name, item.asRead)) ∧
      ((∀ item ∈ items, item.isSupported ∧ item.isFinite) →
        table.entries = items.map fun item => (item.name, item)) ∧
      ∀ name construct, Item.unsupported name construct ∈ items →
        table.get? name = some (.unsupported name "opaque") := by
  obtain ⟨table, hread, hentries⟩ := itemsFrom_toJson items 0 .empty
    (by simpa [Table.keys, Table.empty] using distinct)
  have hitems : (items.foldl withItem { bare identity with name, doc }).items = .ok table := by
    simp [Descriptor.items, entries_foldl_withItem, bare, hread, Except.mapError]
  have hall : table.entries = items.map fun item => (item.name, item.asRead) := by
    simpa [Table.empty] using hentries
  refine ⟨table, hitems, hall, fun hsound => ?_, fun name construct hmem => ?_⟩
  · rw [hall]
    refine List.map_congr_left fun item hmem => ?_
    rw [Item.asRead_eq_self (hsound item hmem).1 (hsound item hmem).2]
  · rw [Table.get?_eq_some_iff, hall]
    exact List.mem_map.mpr ⟨_, hmem, rfl⟩

/-- An item of every kind, with types of another library and fields present and absent. -/
def sampler : List Item :=
  let other : Identity := ⟨⟨2⟩, 1, 3, 1033⟩
  let nested : TypeRef := .pointer (.array (.safeArray (.external other "Shape")) 4)
  [.interface "IDraw" (some ⟨5⟩) (some (.named "IBase"))
      [⟨"Move", .func, none, [⟨"by", nested, .inOut, true⟩], .builtin .void⟩,
        ⟨"Size", .propPutRef, some (-4), [], .unsupported "bits"⟩],
    .dispInterface "DDraw" none [⟨"Count", .propGet, some 7, [], .builtin .i4⟩],
    .coClass "Pen" (some ⟨6⟩) [⟨.named "IDraw", true, false⟩, ⟨.named "DDraw", false, true⟩],
    .enumeration "Shade" [("Dark", -1), ("Light", 1)],
    .struct "Point" [⟨"x", .builtin .r8⟩],
    .typeAlias "Handle" nested,
    .constants "Limits" [⟨"Depth", .int 16⟩, ⟨"Title", .str "é"⟩, ⟨"On", .bool true⟩],
    .unsupported "Either" "union"]

theorem sampler_built :
    (sampler.map Item.name).Nodup ∧
      ∃ table,
        (sampler.foldl withItem { bare ⟨⟨1⟩, 1, 0, 0⟩ with name := some "Draw" }).items =
          .ok table ∧
        table.entries =
          sampler.dropLast.map (fun item => (item.name, item)) ++
            [("Either", .unsupported "Either" "opaque")] := by
  have hdistinct : (sampler.map Item.name).Nodup := by decide
  obtain ⟨table, hread, hentries, -, -⟩ :=
    items_foldl_withItem ⟨⟨1⟩, 1, 0, 0⟩ (some "Draw") none sampler hdistinct
  exact ⟨hdistinct, table, hread, hentries.trans rfl⟩

end Descriptor

end Typelib
