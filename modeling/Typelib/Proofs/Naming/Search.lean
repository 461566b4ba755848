import Typelib.Proofs.Naming.Free

/-!
# The search for a number

A taken name gets a number by trial: a counter starts at 2 and goes up until the name with its
number is free (`NameSearch.probe`).  Nothing in this loop bounds it.  It ends all the same, because
every candidate that is probed in vain is a taken name, and so is the preferred name, which makes
fewer such candidates than taken names (`lt_card_of_taken`).  So the search gives what `nextFree`
says (`NameSearch.exists_found`) as long as the counter can show one number more than there are
taken names, and a counter of 32 bits can, unless billions of names are taken
(`NameSearch.least_free_found`).
-/

namespace Typelib

/-! ## Counters -/

/-- A counter: its first value, and the value after a value, if there is one. -/
structure Counter (Number : Type) where
  first : Number
  next? : Number → Option Number

namespace Counter

/-- The numbers from 2 on. -/
def natural : Counter Nat := ⟨2, fun n => some (n + 1)⟩

/-- The numbers from 2 on that have 32 bits, one of them for the sign. -/
def signed32 : Counter Int32 := ⟨2, fun n => if n = Int32.maxValue then none else some (n + 1)⟩

/-- Whether a counter counts from 2 to a last number: which value stands for a number, that the
values come one after the other, and that they are written like the numbers. -/
structure CountsTo {Number : Type} [ToString Number] (c : Counter Number) (last : Nat)
    (value : Nat → Number) : Prop where
  first : c.first = value 2
  next : ∀ {n}, n < last → c.next? (value n) = some (value (n + 1))
  text : ∀ {n}, n ≤ last → toString (value n) = toString n

theorem natural_countsTo (last : Nat) : natural.CountsTo last id :=
  ⟨rfl, fun _ => rfl, fun _ => rfl⟩

theorem signed32_countsTo : signed32.CountsTo (2 ^ 31 - 1) Int32.ofNat := by
  have hvalue {n : Nat} (hn : n ≤ 2 ^ 31 - 1) : (Int32.ofNat n).toInt = n :=
    Int32.toInt_ofNat_of_lt (by omega)
  refine ⟨rfl, fun {n} hn => ?_, fun {n} hn => ?_⟩
  · have hne : Int32.ofNat n ≠ Int32.maxValue := by
      intro heq
      have hmax : (n : Int) = 2 ^ 31 - 1 := by
        rw [← hvalue hn.le, heq, Int32.toInt_maxValue]
      omega
    simp only [signed32, if_neg hne, Int32.ofNat_add]
    rfl
  · show toString (Int32.ofNat n).toInt = toString n
    rw [hvalue hn]
    rfl

end Counter

/-! ## The loop -/

/-- Where a search stands: before a candidate, at a free name, or at the end of the counter. -/
inductive NameSearch (Number : Type) where
  | trying (number : Number)
  | found (name : String)
  | exhausted
  deriving DecidableEq

namespace NameSearch

section Loop

variable {Number : Type} [ToString Number] (c : Counter Number) (taken : List String)
  (preferred : String)

/-- A free name is found at once; for a taken one the first candidate comes next. -/
def start : NameSearch Number :=
  if preferred ∈ taken then .trying c.first else .found preferred

/-- Probes one candidate: a free one is found, and after a taken one the counter goes up. -/
def probe : NameSearch Number → NameSearch Number
  | .trying n =>
    let candidate := preferred ++ "_" ++ toString n
    if candidate ∈ taken then (c.next? n).elim .exhausted .trying else .found candidate
  | .found name => .found name
  | .exhausted => .exhausted

/-- Where the search stands after some probes. -/
def after (probes : Nat) : NameSearch Number :=
  (probe c taken preferred)^[probes] (start c taken preferred)

end Loop

variable {Number : Type} [ToString Number] {c : Counter Number} {taken : List String}
  {preferred : String} {last : Nat} {value : Nat → Number}

theorem after_succ (probes : Nat) :
    after c taken preferred (probes + 1) =
      probe c taken preferred (after c taken preferred probes) :=
  Function.iterate_succ_apply' _ _ _

/-- A search that has ended stays where it is. -/
theorem after_of_ended {s : NameSearch Number} {ended probes : Nat}
    (h : after c taken preferred ended = s) (hfixed : probe c taken preferred s = s)
    (hle : ended ≤ probes) : after c taken preferred probes = s := by
  obtain ⟨more, rfl⟩ := Nat.exists_eq_add_of_le' hle
  rw [after, Function.iterate_add_apply, ← after, h]
  exact Function.iterate_fixed hfixed more

/-- A search that finds a name never comes to the end of the counter. -/
theorem after_ne_exhausted {name : String} {ended : Nat}
    (h : after c taken preferred ended = .found name) (probes : Nat) :
    after c taken preferred probes ≠ .exhausted := by
  intro hexhausted
  have hname : after c taken preferred (max ended probes) = .found name :=
    after_of_ended h rfl (le_max_left _ _)
  have hend : after c taken preferred (max ended probes) = .exhausted :=
    after_of_ended hexhausted rfl (le_max_right _ _)
  rw [hname] at hend
  cases hend

/-- After a taken candidate comes the one with the next number. -/
theorem probe_of_mem (h : c.CountsTo last value) {n : Nat} (hn : n < last)
    (htaken : numbered preferred n ∈ taken) :
    probe c taken preferred (.trying (value n)) = .trying (value (n + 1)) := by
  have hcandidate : preferred ++ "_" ++ toString (value n) ∈ taken := by
    rwa [h.text hn.le]
  simp only [probe, if_pos hcandidate, h.next hn, Option.elim_some]

/-- A free candidate ends the search. -/
theorem probe_of_not_mem (h : c.CountsTo last value) {n : Nat} (hn : n ≤ last)
    (hfree : numbered preferred n ∉ taken) :
    probe c taken preferred (.trying (value n)) = .found (numbered preferred n) := by
  have hcandidate : preferred ++ "_" ++ toString (value n) = numbered preferred n := by
    rw [h.text hn, numbered]
  simp only [probe, hcandidate, if_neg hfree]

/-- While the candidates are taken, the counter goes up with the probes. -/
theorem after_eq_trying (h : c.CountsTo last value) (hpreferred : preferred ∈ taken) {k : Nat}
    (hroom : k + 2 ≤ last) (htaken : ∀ j < k, numbered preferred (j + 2) ∈ taken) :
    after c taken preferred k = .trying (value (k + 2)) := by
  induction k with
  | zero => rw [after, Function.iterate_zero_apply, start, if_pos hpreferred, h.first]
  | succ k ih =>
    have hbefore := ih (by omega) fun j hj => htaken j (by omega)
    rw [after_succ, hbefore]
    exact probe_of_mem h (by omega) (htaken k (by omega))

/-- With a counter that can show one number more than there are taken names, the search ends, at the
name that `nextFree` says, and probes no more candidates than there are taken names. -/
theorem exists_found (h : c.CountsTo last value) (hroom : taken.toFinset.card < last) :
    ∃ probes ≤ taken.toFinset.card,
      after c taken preferred probes = .found (nextFree taken preferred) := by
  by_cases hpreferred : preferred ∈ taken
  · obtain ⟨k, -, heq, hfree, hbefore⟩ := nextFree_of_mem hpreferred
    have hk : k < taken.toFinset.card := lt_card_of_taken hpreferred hbefore
    refine ⟨k + 1, hk, ?_⟩
    rw [after_succ, after_eq_trying h hpreferred (by omega) hbefore, heq]
    exact probe_of_not_mem h (by omega) hfree
  · refine ⟨0, Nat.zero_le _, ?_⟩
    rw [after, Function.iterate_zero_apply, start, if_neg hpreferred,
      nextFree_of_not_mem hpreferred]

example : after .signed32 ["Shape_2", "Shape", "Shape_4"] "Shape" 2 = .found "Shape_3" := by decide

end NameSearch

/-! ## The least free number -/

/-- A taken name gets the least number from 2 on that makes it free. -/
theorem nextFree_isLeast {taken : List String} {preferred : String} (h : preferred ∈ taken) :
    ∃ n, IsLeast {n | 2 ≤ n ∧ numbered preferred n ∉ taken} n ∧
      nextFree taken preferred = numbered preferred n := by
  obtain ⟨k, -, heq, hfree, hbefore⟩ := nextFree_of_mem h
  refine ⟨k + 2, ⟨⟨by omega, hfree⟩, fun n hn => ?_⟩, heq⟩
  obtain ⟨hn, hfree'⟩ := hn
  by_contra hlt
  obtain ⟨j, rfl⟩ := Nat.exists_eq_add_of_le' hn
  exact hfree' (hbefore j (by omega))

/-- The search for a name ends after no more probes than there are taken names.  It keeps a free
name and gives a taken one the least number from 2 on that makes it free, and the name it ends at
is never taken.  While fewer than `2 ^ 31 - 2` names are taken, it does so with a counter of 32
bits, whose end it does not reach. -/
theorem NameSearch.least_free_found (taken : List String) (preferred : String) :
    let size := taken.toFinset.card
    (∃ probes ≤ size,
      after .natural taken preferred probes = .found (nextFree taken preferred)) ∧
    (preferred ∉ taken → nextFree taken preferred = preferred) ∧
    (preferred ∈ taken → ∃ n, IsLeast {n | 2 ≤ n ∧ numbered preferred n ∉ taken} n ∧
      nextFree taken preferred = numbered preferred n) ∧
    nextFree taken preferred ∉ taken ∧
    (size < 2 ^ 31 - 2 →
      (∃ probes ≤ size,
        after .signed32 taken preferred probes = .found (nextFree taken preferred)) ∧
      ∀ probes, after .signed32 taken preferred probes ≠ .exhausted) := by
  intro size
  refine ⟨exists_found (Counter.natural_countsTo (size + 1)) (Nat.lt_succ_self size),
    nextFree_of_not_mem, nextFree_isLeast, nextFree_not_mem taken preferred, fun hsize => ?_⟩
  have hroom : taken.toFinset.card < 2 ^ 31 - 1 := Nat.lt_of_lt_of_le hsize (by decide)
  have hends : ∃ probes ≤ size,
      after .signed32 taken preferred probes = .found (nextFree taken preferred) :=
    exists_found Counter.signed32_countsTo hroom
  obtain ⟨probes, hprobes, hfound⟩ := hends
  exact ⟨⟨probes, hprobes, hfound⟩, after_ne_exhausted hfound⟩

/-- Names with a gap among their numbers, one of them listed twice. -/
def gappedNames : List String := ["Shape_2", "Shape", "Shape_4", "Shape_2"]

/-- The gap is found in three probes at most, and a name that is not taken is kept. -/
theorem NameSearch.gap_found :
    gappedNames.toFinset.card = 3 ∧
      ("Shape" ∈ gappedNames ∧ ∃ n, IsLeast {n | 2 ≤ n ∧ numbered "Shape" n ∉ gappedNames} n ∧
        nextFree gappedNames "Shape" = numbered "Shape" n) ∧
      ("Shape_3" ∉ gappedNames ∧ nextFree gappedNames "Shape_3" = "Shape_3") ∧
      (∃ probes ≤ 3, after .signed32 gappedNames "Shape" probes = .found "Shape_3") ∧
      ∀ probes, after .signed32 gappedNames "Shape" probes ≠ .exhausted := by
  have hsize : gappedNames.toFinset.card = 3 := by decide
  have hname : nextFree gappedNames "Shape" = "Shape_3" := by decide
  obtain ⟨-, -, hleast, -, hnarrow⟩ := least_free_found gappedNames "Shape"
  obtain ⟨-, hkept, -⟩ := least_free_found gappedNames "Shape_3"
  have htaken : "Shape" ∈ gappedNames := by decide
  have hfree : "Shape_3" ∉ gappedNames := by decide
  obtain ⟨hfound, hnever⟩ := hnarrow (by rw [hsize]; decide)
  rw [hname, hsize] at hfound
  exact ⟨hsize, ⟨htaken, hleast htaken⟩, ⟨hfree, hkept hfree⟩, hfound, hnever⟩

end Typelib
