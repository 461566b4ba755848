/-!
# Tables: finite maps that remember the order of first insertion

A `Table κ α` lists entries with pairwise distinct keys.  `Table.insert` replaces the value of a
key that is present, in place, and appends otherwise; so the items of a library keep their
declaration order, and a look-up after an insertion is the usual map equation
(`Table.get?_insert`).  Where an answer needs keys in ascending order, the reader sorts them with
`ascending`.
-/

namespace Typelib

universe u v

/-- A finite map whose entries stand in the order their keys were first inserted. -/
structure Table (κ : Type u) (α : Type v) where
  entries : List (κ × α)
  distinct : (entries.map Prod.fst).Nodup

namespace Table

variable {κ : Type u} {α : Type v}

/-- The table without entries. -/
def empty : Table κ α := ⟨[], .nil⟩

instance : EmptyCollection (Table κ α) := ⟨empty⟩

instance : Inhabited (Table κ α) := ⟨empty⟩

instance [DecidableEq κ] [DecidableEq α] : DecidableEq (Table κ α) := fun s t =>
  decidable_of_iff (s.entries = t.entries) (by cases s; cases t; simp)

/-- The keys, in order of first insertion. -/
def keys (t : Table κ α) : List κ := t.entries.map Prod.fst

/-- The values, in order of their keys. -/
def values (t : Table κ α) : List α := t.entries.map Prod.snd

/-- The number of entries. -/
def size (t : Table κ α) : Nat := t.entries.length

/-- Whether the table has no entries. -/
def isEmpty (t : Table κ α) : Bool := t.entries.isEmpty

variable [DecidableEq κ]

/-- The value of the first entry under `key`. -/
def find (key : κ) : List (κ × α) → Option α
  | [] => none
  | (k, a) :: rest => if k = key then some a else find key rest

/-- The entries with the value of `key` replaced, or with a new entry at the end. -/
def put (key : κ) (value : α) : List (κ × α) → List (κ × α)
  | [] => [(key, value)]
  | (k, a) :: rest => if k = key then (k, value) :: rest else (k, a) :: put key value rest

theorem mem_keys_put {key k : κ} {value : α} {entries : List (κ × α)} :
    k ∈ (put key value entries).map Prod.fst ↔ k = key ∨ k ∈ entries.map Prod.fst := by
  induction entries with
  | nil => simp [put]
  | cons entry rest ih =>
    obtain ⟨k', a⟩ := entry
    by_cases h : k' = key
    · subst h
      simp [put]
    · simp only [put, h, if_false, List.map_cons, List.mem_cons, ih]
      exact or_left_comm

theorem nodup_put {key : κ} {value : α} {entries : List (κ × α)}
    (distinct : (entries.map Prod.fst).Nodup) :
    ((put key value entries).map Prod.fst).Nodup := by
  induction entries with
  | nil => simp [put]
  | cons entry rest ih =>
    obtain ⟨k', a⟩ := entry
    simp only [List.map_cons, List.nodup_cons] at distinct
    by_cases h : k' = key
    · subst h
      simpa [put] using distinct
    · rw [put, if_neg h, List.map_cons, List.nodup_cons, mem_keys_put]
      exact ⟨fun found => found.elim h distinct.1, ih distinct.2⟩

theorem find_put {key k : κ} {value : α} {entries : List (κ × α)} :
    find k (put key value entries) = if k = key then some value else find k entries := by
  induction entries with
  | nil => simp [put, find, eq_comm]
  | cons entry rest ih =>
    obtain ⟨k', a⟩ := entry
    by_cases h : k' = key
    · subst h
      by_cases hk : k' = k
      · simp [put, find, hk]
      · simp [put, find, hk, Ne.symm hk]
    · by_cases hk : k' = k
      · subst hk
        simp [put, find, h]
      · simpa [put, find, h, hk] using ih

/-- The value stored under `key`. -/
def get? (t : Table κ α) (key : κ) : Option α := find key t.entries

/-- Whether an entry has the key. -/
def contains (t : Table κ α) (key : κ) : Bool := (t.get? key).isSome

/-- Stores `value` under `key`, in place of an earlier value. -/
def insert (t : Table κ α) (key : κ) (value : α) : Table κ α :=
  ⟨put key value t.entries, nodup_put t.distinct⟩

/-- The entries whose keys pass a test. -/
def filterKeys (t : Table κ α) (test : κ → Bool) : Table κ α :=
  ⟨t.entries.filter fun entry => test entry.1,
    t.distinct.sublist ((List.filter_sublist (p := fun entry => test entry.1)).map Prod.fst)⟩

/-- The table without the entry of a key. -/
def erase (t : Table κ α) (key : κ) : Table κ α := t.filterKeys fun k => k ≠ key

/-- The table of a list of entries; of two entries with one key the later value counts. -/
def ofList (entries : List (κ × α)) : Table κ α :=
  entries.foldl (fun t entry => t.insert entry.1 entry.2) empty

@[simp] theorem get?_empty {key : κ} : (empty : Table κ α).get? key = none := rfl

/-- An insertion changes the answer for its own key only. -/
theorem get?_insert {t : Table κ α} {key k : κ} {value : α} :
    (t.insert key value).get? k = if k = key then some value else t.get? k :=
  find_put

/-- The keys after an insertion are the new key and the old ones. -/
theorem mem_keys_insert {t : Table κ α} {key k : κ} {value : α} :
    k ∈ (t.insert key value).keys ↔ k = key ∨ k ∈ t.keys :=
  mem_keys_put

theorem find_eq_some_iff {key : κ} {value : α} {entries : List (κ × α)}
    (distinct : (entries.map Prod.fst).Nodup) :
    find key entries = some value ↔ (key, value) ∈ entries := by
  induction entries with
  | nil => simp [find]
  | cons entry rest ih =>
    obtain ⟨k, a⟩ := entry
    simp only [List.map_cons, List.nodup_cons, List.mem_map, not_exists, not_and] at distinct
    by_cases h : k = key
    · subst h
      have habsent : (k, value) ∉ rest := fun found => distinct.1 _ found rfl
      simp [find, habsent, eq_comm]
    · simp [find, h, Ne.symm h, ih distinct.2]

/-- A look-up finds exactly the entries. -/
theorem get?_eq_some_iff {t : Table κ α} {key : κ} {value : α} :
    t.get? key = some value ↔ (key, value) ∈ t.entries :=
  find_eq_some_iff t.distinct

theorem contains_iff {t : Table κ α} {key : κ} : t.contains key ↔ key ∈ t.keys := by
  simp only [contains, Option.isSome_iff_exists, get?_eq_some_iff, keys, List.mem_map,
    Prod.exists, exists_and_right, exists_eq_right]

end Table

end Typelib
