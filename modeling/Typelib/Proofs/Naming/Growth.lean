import Typelib.Proofs.Naming.Assignment
import Typelib.Proofs.Table

/-!
# Identifiers of a library that grows

The identifiers of items and those of method structures stand in two tables.  Every claim keeps the
balance between these and the taken names (`IsBalanced`): what is taken is what the tables give,
each once, and the known symbols.  So no identifier is given twice, in one table or in both; and
since a claim is final, items that are declared later change none that was given before
(`given_once`).
-/

namespace Typelib

namespace LocalNames

open scoped List

variable {known : Symbols} {names : LocalNames} {item : Item}

/-- All identifiers that have been given: those of items, and those of method structures. -/
def given (names : LocalNames) : List String := names.idents.values ++ names.vtables.values

/-- What is taken has been given, or is a known symbol. -/
def IsBalanced (known : Symbols) (names : LocalNames) : Prop :=
  names.taken ~ names.given ++ known.keys

/-- Neither table has an entry for a declared name. -/
def IsUnnamed (names : LocalNames) (declared : String) : Prop :=
  declared ∉ names.idents.keys ∧ declared ∉ names.vtables.keys

theorem start_isBalanced (known : Symbols) : IsBalanced known (start known) :=
  List.Perm.refl _

theorem start_isUnnamed (known : Symbols) (declared : String) : (start known).IsUnnamed declared :=
  ⟨List.not_mem_nil, List.not_mem_nil⟩

/-- A claim leaves items of other names without one. -/
theorem IsUnnamed.claim {declared : String} (h : names.IsUnnamed declared)
    (hne : declared ≠ item.name) : (claim known names item).IsUnnamed declared := by
  simp only [IsUnnamed, ← Table.contains_iff, Table.contains, idents_claim_of_ne hne,
    vtables_claim_of_ne hne] at h ⊢
  exact h

/-- The claim of an item without a name gives its names. -/
theorem given_claim (hnovel : known.contains item.name = false) (h : names.IsUnnamed item.name) :
    (claim known names item).given ~ (claim known names item).namesOf item ++ names.given := by
  have hidents : (claim known names item).idents.values =
      names.idents.values ++ [(claim known names item).identOf item.name] := by
    rw [identOf_claim names hnovel, idents_claim hnovel, Table.values_insert_of_notMem h.1]
  by_cases hinterface : item.isInterface
  · have hvtables : (claim known names item).vtables.values =
        names.vtables.values ++ [(claim known names item).vtableOf item.name] := by
      rw [vtableOf_claim names hnovel hinterface, vtables_claim hnovel, if_pos hinterface,
        Table.values_insert_of_notMem h.2]
    rw [given, given, hidents, hvtables, namesOf, if_pos hinterface]
    grind
  · have hvtables : (claim known names item).vtables.values = names.vtables.values := by
      rw [vtables_claim hnovel, if_neg hinterface]
    rw [given, given, hidents, hvtables, namesOf, if_neg hinterface]
    grind

/-- A claim keeps the balance. -/
theorem IsBalanced.claim (h : IsBalanced known names) (hunnamed : names.IsUnnamed item.name) :
    IsBalanced known (claim known names item) := by
  by_cases hknown : known.contains item.name
  · rwa [claim_known hknown]
  · have hnovel : known.contains item.name = false := by simpa using hknown
    calc (LocalNames.claim known names item).taken
      _ ~ ((LocalNames.claim known names item).namesOf item).reverse ++ names.taken := by
          rw [taken_claim hnovel]
      _ ~ (LocalNames.claim known names item).namesOf item ++ (names.given ++ known.keys) :=
          (List.reverse_perm _).append h
      _ ~ (LocalNames.claim known names item).given ++ known.keys := by
          rw [← List.append_assoc]
          exact (given_claim hnovel hunnamed).symm.append_right _

/-- So do the claims of items with different names. -/
theorem IsBalanced.foldl {items : List Item} (h : IsBalanced known names)
    (distinct : (items.map Item.name).Nodup)
    (hunnamed : ∀ item ∈ items, names.IsUnnamed item.name) :
    IsBalanced known (items.foldl (LocalNames.claim known) names) := by
  induction items generalizing names with
  | nil => exact h
  | cons item rest ih =>
    obtain ⟨hfirst, hrest⟩ := List.nodup_cons.mp distinct
    obtain ⟨hitem, hlater⟩ := List.forall_mem_cons.mp hunnamed
    refine ih (h.claim hitem) hrest fun later hmem => (hlater later hmem).claim ?_
    rintro heq
    exact hfirst (heq ▸ List.mem_map_of_mem hmem)

section Assign

variable {items more : Items}

theorem assign_isBalanced (known : Symbols) (named : items.AreNamed) :
    IsBalanced known (assign items known) :=
  (start_isBalanced known).foldl named.distinct fun _ _ => start_isUnnamed known _

/-- Items that are declared later change no name of an earlier one. -/
theorem assign_of_prefix (named : more.AreNamed) (hgrowth : items.entries <+: more.entries)
    {item : Item} (hitem : item ∈ items.values) :
    (assign more known).idents.get? item.name = (assign items known).idents.get? item.name ∧
      (assign more known).vtables.get? item.name = (assign items known).vtables.get? item.name := by
  obtain ⟨later, hlater⟩ := hgrowth
  have hvalues : more.values = items.values ++ later.map Prod.snd := by
    rw [Table.values, ← hlater, List.map_append, Table.values]
  have hdistinct := named.distinct
  rw [hvalues, List.map_append, List.nodup_append'] at hdistinct
  have hnew : item.name ∉ (later.map Prod.snd).map Item.name :=
    fun hmem => hdistinct.2.2 (List.mem_map_of_mem hitem) hmem
  rw [assign, hvalues, List.foldl_append]
  exact ⟨idents_foldl hnew, vtables_foldl hnew⟩

/-- Exactly the items that are no known symbols have identifiers, and exactly the interfaces among
them have one for the structure of their methods.  All of these are distinct, none is a known
symbol, and items that are declared later change none of them. -/
theorem given_once (known : Symbols) (named : items.AreNamed) :
    let names := assign items known
    (∀ declared, names.idents.contains declared ↔
      ∃ item ∈ items.novel known, item.name = declared) ∧
    (∀ declared, names.vtables.contains declared ↔
      ∃ item ∈ items.novel known, item.name = declared ∧ item.isInterface) ∧
    (names.idents.values ++ names.vtables.values).Nodup ∧
    (∀ ident ∈ names.idents.values ++ names.vtables.values, known.contains ident = false) ∧
    ∀ more : Items, more.AreNamed → items.entries <+: more.entries → ∀ item ∈ items.values,
      (assign more known).idents.get? item.name = names.idents.get? item.name ∧
        (assign more known).vtables.get? item.name = names.vtables.get? item.name := by
  intro names
  have hnodup := (assign_isBalanced known named).nodup_iff.mp (nodup_assign items known)
  rw [List.nodup_append'] at hnodup
  obtain ⟨hgiven, -, hdisjoint⟩ := hnodup
  refine ⟨fun _ => contains_ident_assign, fun _ => contains_vtable_assign, hgiven,
    fun ident hident => ?_, fun more hmore hgrowth item => assign_of_prefix hmore hgrowth⟩
  by_contra hknown
  exact hdisjoint hident (Table.contains_iff.mp (by simpa using hknown))

/-- Two structures whose names are alike as identifiers, and an interface. -/
def alikeItems : Items :=
  Table.ofList
    [("Foo Bar", .struct "Foo Bar" []), ("Foo_Bar", .struct "Foo_Bar" []),
      ("IFoo", .interface "IFoo" none none [])]

/-- These and structures that are called like the identifiers given to them. -/
def grownItems : Items :=
  Table.ofList
    [("Foo Bar", .struct "Foo Bar" []), ("Foo_Bar", .struct "Foo_Bar" []),
      ("IFoo", .interface "IFoo" none none []), ("Foo_Bar_2", .struct "Foo_Bar_2" []),
      ("IFoo_Vtbl", .struct "IFoo_Vtbl" [])]

theorem given_once_grown :
    let names := assign grownItems .standard
    (alikeItems.AreNamed ∧ grownItems.AreNamed ∧ alikeItems.entries <+: grownItems.entries) ∧
      names.idents.contains "Foo_Bar_2" ∧
      (names.idents.values ++ names.vtables.values).Nodup ∧
      names.idents.get? "Foo_Bar" = some "Foo_Bar_2" ∧
      names.vtables.get? "IFoo" = some "IFoo_Vtbl" := by
  intro names
  have halike : alikeItems.AreNamed := by
    unfold Items.AreNamed
    decide
  have hgrown : grownItems.AreNamed := by
    unfold Items.AreNamed
    decide
  have hgrowth : alikeItems.entries <+: grownItems.entries := by decide
  obtain ⟨hidents, -, hnodup, -⟩ := given_once .standard hgrown
  obtain ⟨-, -, -, -, hkept⟩ := given_once .standard halike
  have hfoo := hkept grownItems hgrown hgrowth (.struct "Foo_Bar" []) (by decide)
  have hinterface := hkept grownItems hgrown hgrowth (.interface "IFoo" none none [])
    (by decide)
  refine ⟨⟨halike, hgrown, hgrowth⟩, ?_, hnodup, hfoo.1.trans (by decide),
    hinterface.2.trans (by decide)⟩
  exact (hidents "Foo_Bar_2").mpr ⟨.struct "Foo_Bar_2" [], by decide, rfl⟩

end Assign

end LocalNames

end Typelib
