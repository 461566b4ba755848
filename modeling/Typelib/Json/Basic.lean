import Typelib.Double.Basic

/-!
# Data values

`Json` is the type of the untyped data that descriptors, registry snapshots and reports are made
of.  An object lists its members in order.  Two views read typed data out of a value: a record
(`Json.record?`) is written as an object or, by position, as an array; a variant
(`Json.variant?`) is written as the text of its tag or as an object with the tag as its only key.
-/

namespace Typelib

/-- A number is kept as an integer when it is written as one that fits 64 bits. -/
inductive Number where
  | integer (value : Int)
  | double (value : Double)
  deriving DecidableEq

/-- Untyped data. -/
inductive Json where
  | null
  | bool (value : Bool)
  | number (value : Number)
  | string (value : String)
  | array (elements : List Json)
  | object (members : List (String × Json))

namespace Json

instance : Inhabited Json := ⟨null⟩

/-- The integer `n`. -/
def int (n : Int) : Json := number (.integer n)

/-- The natural number `n`. -/
def nat (n : Nat) : Json := int n

/-- The value of a member of an object. -/
def member? (key : String) : Json → Option Json
  | object members => members.lookup key
  | _ => none

def string? : Json → Option String
  | string s => some s
  | _ => none

def bool? : Json → Option Bool
  | bool b => some b
  | _ => none

def array? : Json → Option (List Json)
  | array elements => some elements
  | _ => none

/-- A number written as an integer. -/
def int? : Json → Option Int
  | number (.integer n) => some n
  | _ => none

/-- An integer from `low` up to, but not including, `high`. -/
def intWithin? (low high : Int) (j : Json) : Option Int :=
  j.int?.bind fun n => if low ≤ n ∧ n < high then some n else none

def word16? (j : Json) : Option UInt16 :=
  (j.intWithin? 0 0x10000).map fun n => UInt16.ofNat n.toNat

def word32? (j : Json) : Option UInt32 :=
  (j.intWithin? 0 0x100000000).map fun n => UInt32.ofNat n.toNat

def int32? (j : Json) : Option Int32 :=
  (j.intWithin? (-0x80000000) 0x80000000).map Int32.ofInt

def int64? (j : Json) : Option Int64 :=
  (j.intWithin? (-0x8000000000000000) 0x8000000000000000).map Int64.ofInt

/-- Any number, as a double. -/
def double? : Json → Option Double
  | number (.integer n) => some (.ofInt n)
  | number (.double d) => some d
  | _ => none

/-- The fields of a record, in the order of their names.  As an object a record may lack fields
and hold others besides; as an array it may lack fields at the end only. -/
def record? (names : List String) : Json → Option (List (Option Json))
  | object members => some (names.map fun name => members.lookup name)
  | array elements =>
    if elements.length ≤ names.length then
      some (elements.map some ++ List.replicate (names.length - elements.length) none)
    else none
  | _ => none

/-- The tag of a variant and what it carries. -/
def variant? : Json → Option (String × Option Json)
  | string tag => some (tag, none)
  | object [(tag, payload)] => some (tag, some payload)
  | _ => none

/-- A field that must be there. -/
def required {α : Type} (read : Json → Option α) (field : Option Json) : Option α :=
  field.bind read

/-- A field that has a value of its own when it is left out. -/
def withDefault {α : Type} (default : α) (read : Json → Option α) :
    Option Json → Option α
  | none => some default
  | some j => read j

/-- A field that may be left out or null. -/
def optional {α : Type} (read : Json → Option α) : Option Json → Option (Option α)
  | none | some null => some none
  | some j => (read j).map some

/-- A list whose elements are all readable. -/
def list? {α : Type} (read : Json → Option α) (j : Json) : Option (List α) :=
  j.array?.bind fun elements => elements.mapM read

/-- A list field that is empty when it is left out. -/
def listField {α : Type} (read : Json → Option α) : Option Json → Option (List α) :=
  withDefault [] (list? read)

theorem sizeOf_lt_of_lookup {members : List (String × Json)} {key : String} {j : Json}
    (h : members.lookup key = some j) : sizeOf j < sizeOf members := by
  induction members with
  | nil => simp at h
  | cons entry rest ih =>
    obtain ⟨k, v⟩ := entry
    rw [List.lookup_cons] at h
    split at h
    · cases h
      simp +arith
    · have := ih h
      simp +arith
      omega

/-- The fields of a record are smaller than the record. -/
theorem sizeOf_lt_of_record {names : List String} {j field : Json} {fields : List (Option Json)}
    (h : j.record? names = some fields) (mem : some field ∈ fields) : sizeOf field < sizeOf j := by
  cases j with
  | object members =>
    simp only [record?, Option.some.injEq] at h
    subst h
    obtain ⟨name, _, found⟩ := List.mem_map.mp mem
    have := sizeOf_lt_of_lookup found
    simp
    omega
  | array elements =>
    simp only [record?, Option.ite_none_right_eq_some, Option.some.injEq] at h
    obtain ⟨_, rfl⟩ := h
    have found : field ∈ elements := by simpa using mem
    have := List.sizeOf_lt_of_mem found
    simp
    omega
  | _ => simp [record?] at h

/-- What a variant carries is smaller than the variant. -/
theorem sizeOf_lt_of_variant {j payload : Json} {tag : String}
    (h : j.variant? = some (tag, some payload)) : sizeOf payload < sizeOf j := by
  cases j with
  | object members =>
    match members, h with
    | [(k, v)], h =>
      simp only [variant?, Option.some.injEq, Prod.mk.injEq] at h
      obtain ⟨_, rfl⟩ := h
      simp
      omega
  | _ => simp [variant?] at h

end Json

end Typelib
