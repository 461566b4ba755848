import Mathlib
import Typelib.Table

/-!
# What a table holds after a change

A value under a new key stands behind the other entries (`entries_insert_of_notMem`).  Keeping
the entries whose keys pass a test leaves these as they are and nothing else (`get?_filterKeys`).
-/

namespace Typelib

namespace Table

variable {κ : Type*} {α : Type*}

/-- A table is told by its entries. -/
theorem ext_entries {s t : Table κ α} (h : s.entries = t.entries) : s = t := by
  cases s
  cases t
  simpa using h

/-! ## Tests of keys -/

section Filter

variable {t : Table κ α} {test : κ → Bool}

theorem keys_filterKeys : (t.filterKeys test).keys = t.keys.filter test := by
  rw [keys, keys, List.filter_map]
  rfl

theorem filterKeys_filterKeys (also : κ → Bool) :
    (t.filterKeys test).filterKeys also = t.filterKeys fun key => test key && also key :=
  ext_entries (by simp [filterKeys, List.filter_filter, Bool.and_comm])

/-- If all keys pass the test, nothing changes. -/
theorem filterKeys_eq_self (h : ∀ key ∈ t.keys, test key) : t.filterKeys test = t :=
  ext_entries (List.filter_eq_self.mpr fun _ hentry => h _ (List.mem_map_of_mem hentry))

end Filter

variable [DecidableEq κ]

/-- The keys that pass the test keep their values, and the others have none. -/
theorem get?_filterKeys {t : Table κ α} {test : κ → Bool} {key : κ} :
    (t.filterKeys test).get? key = if test key then t.get? key else none := by
  refine Option.ext fun value => ?_
  rw [get?_eq_some_iff]
  by_cases h : test key <;> simp [filterKeys, h, get?_eq_some_iff]

/-! ## New keys -/

theorem put_of_notMem {key : κ} {value : α} {entries : List (κ × α)}
    (h : key ∉ entries.map Prod.fst) : put key value entries = entries ++ [(key, value)] := by
  induction entries with
  | nil => rfl
  | cons entry rest ih =>
    rw [List.map_cons, List.mem_cons, not_or] at h
    rw [put, if_neg (Ne.symm h.1), ih h.2, List.cons_append]

/-- A value under a new key stands behind the other entries. -/
theorem entries_insert_of_notMem {t : Table κ α} {key : κ} (h : key ∉ t.keys) (value : α) :
    (t.insert key value).entries = t.entries ++ [(key, value)] := put_of_notMem h

theorem values_insert_of_notMem {t : Table κ α} {key : κ} (h : key ∉ t.keys) (value : α) :
    (t.insert key value).values = t.values ++ [value] := by
  rw [values, entries_insert_of_notMem h, List.map_append]
  rfl

end Table

end Typelib
