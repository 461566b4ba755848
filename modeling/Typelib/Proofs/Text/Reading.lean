import Typelib.Proofs.Text.Digits
import Typelib.Text.Blank

/-!
# Reading numbers

Digits are read as the number they were written for, in every base up to sixteen
(`natural?_toDigits`) and, in groups of a fixed width, in either case of the letters
(`digitsValue?_fixedHex`).  Reading also takes capitals, leading zeros and a plus sign, so a number
has many spellings; the one it is written in is the `IsPlain` one (`word16?_eq_toDigits_iff`).
-/

namespace Typelib.Text

/-! ## Digits -/

/-- A digit is read as its value in every base that it is a digit of. -/
theorem digitValue?_digitChar :
    ∀ base ≤ 16, ∀ d < base, digitValue? base (Nat.digitChar d) = some d := by
  decide

/-- A capital is read as its value. -/
theorem digitValue?_toUpper : ∀ d < 16, digitValue? 16 (Nat.digitChar d).toUpper = some d := by
  decide

theorem digitsValue?_append {base start : Nat} (before after : List Char) :
    digitsValue? base start (before ++ after) =
      (digitsValue? base start before).bind fun n => digitsValue? base n after := by
  induction before generalizing start with
  | nil => rfl
  | cons c rest ih =>
    simp only [List.cons_append, digitsValue?, Option.bind_assoc]
    exact congrArg _ (funext fun d => ih)

/-- Digits of a fixed width are read as the last digits of the number they were written for, as
they are or in capitals. -/
theorem digitsValue?_fixedHex {f : Char → Char}
    (hf : ∀ d < 16, digitValue? 16 (f (Nat.digitChar d)) = some d) (start width n : Nat) :
    digitsValue? 16 start ((fixedHex width n).map f) =
      some (start * 16 ^ width + n % 16 ^ width) := by
  induction width generalizing n with
  | zero => simp [fixedHex, digitsValue?, Nat.mod_one]
  | succ width ih =>
    have hlast : digitValue? 16 (f (Nat.digitChar (n % 16))) = some (n % 16) :=
      hf _ (Nat.mod_lt n (by decide))
    have hsplit : n % 16 ^ (width + 1) = 16 * (n / 16 % 16 ^ width) + n % 16 := by
      rw [Nat.pow_succ', Nat.mod_mul, Nat.add_comm]
    simp only [fixedHex, List.map_append, List.map_cons, List.map_nil, digitsValue?_append, ih,
      Option.bind_some, digitsValue?, hlast]
    rw [hsplit, Nat.pow_succ]
    congr 1
    ring

theorem digitsValue?_toDigits {base : Nat} (hone : 1 < base) (hbase : base ≤ 16) (n : Nat) :
    digitsValue? base 0 (Nat.toDigits base n) = some n := by
  induction n using Nat.strong_induction_on with
  | _ n ih =>
    rw [Nat.toDigits_eq_if hone]
    split
    · rename_i hlt
      simp [digitsValue?, digitValue?_digitChar base hbase n hlt]
    · rename_i hge
      have hfront := ih (n / base) (Nat.div_lt_self (by omega) hone)
      have hlast := digitValue?_digitChar base hbase (n % base) (Nat.mod_lt n (by omega))
      simp [digitsValue?_append, hfront, digitsValue?, hlast, Nat.div_add_mod]

theorem natural?_of_ne_nil {base : Nat} {cs : List Char} (h : cs ≠ []) :
    natural? base cs = digitsValue? base 0 cs := by
  rcases cs with _ | ⟨c, rest⟩
  · exact absurd rfl h
  · rfl

theorem natural?_toDigits {base : Nat} (hone : 1 < base) (hbase : base ≤ 16) (n : Nat) :
    natural? base (Nat.toDigits base n) = some n := by
  rw [natural?_of_ne_nil Nat.toDigits_ne_nil, digitsValue?_toDigits hone hbase]

/-! ## The spelling that is written -/

/-- Hexadecimal digits in lower case. -/
def isLowerHex (c : Char) : Bool := c.isDigit || ('a' ≤ c && c ≤ 'f')

/-- A hexadecimal number in lower case, without sign and leading zeros. -/
structure IsPlain (cs : List Char) : Prop where
  nonempty : cs ≠ []
  lower : ∀ c ∈ cs, isLowerHex c
  start : cs.head? = some '0' → cs = ['0']

theorem isLowerHex_digitChar : ∀ d < 16, isLowerHex (Nat.digitChar d) := by decide

theorem exists_digitChar_of_isLowerHex {c : Char} (h : isLowerHex c) :
    ∃ d < 16, Nat.digitChar d = c := by
  have hsmall : c.toNat < 128 := by
    simp only [isLowerHex, Char.isDigit, Bool.or_eq_true, Bool.and_eq_true, decide_eq_true_eq] at h
    rcases h with ⟨-, h⟩ | ⟨-, h⟩
    · exact Nat.lt_of_le_of_lt (UInt32.le_iff_toNat_le.mp h) (by decide)
    · exact Nat.lt_of_le_of_lt (UInt32.le_iff_toNat_le.mp h) (by decide)
  have hall : ∀ n < 128, isLowerHex (Char.ofNat n) → ∃ d < 16, Nat.digitChar d = Char.ofNat n := by
    decide
  have hfound := hall c.toNat hsmall
  rw [Char.ofNat_toNat] at hfound
  exact hfound h

theorem isPlain_toDigits (n : Nat) : IsPlain (Nat.toDigits 16 n) where
  nonempty := Nat.toDigits_ne_nil
  lower c hc := by
    obtain ⟨d, hd, rfl⟩ := mem_toDigits (by decide) hc
    exact isLowerHex_digitChar d hd
  start := by
    induction n using Nat.strong_induction_on with
    | _ n ih =>
      rw [Nat.toDigits_eq_if (by decide)]
      split
      · simp
      · rename_i hge
        -- a zero in front would be the whole of the digits before the last one
        intro hzero
        rw [List.head?_append_of_ne_nil _ Nat.toDigits_ne_nil] at hzero
        have hfront := ih (n / 16) (Nat.div_lt_self (by omega) (by decide)) hzero
        have hread : natural? 16 (Nat.toDigits 16 (n / 16)) = some (n / 16) :=
          natural?_toDigits (by decide) (by decide) (n / 16)
        rw [hfront] at hread
        have hnone : n / 16 = 0 := (Option.some.inj hread).symm
        omega

/-- Digits in lower case that are read after a number other than zero continue its digits. -/
theorem toDigits_append {cs : List Char} {start n : Nat} (hstart : 0 < start)
    (hlower : ∀ c ∈ cs, isLowerHex c) (h : digitsValue? 16 start cs = some n) :
    Nat.toDigits 16 start ++ cs = Nat.toDigits 16 n := by
  induction cs generalizing start with
  | nil =>
    obtain rfl := Option.some.inj h
    exact List.append_nil _
  | cons c rest ih =>
    obtain ⟨d, hd, rfl⟩ := exists_digitChar_of_isLowerHex (hlower c List.mem_cons_self)
    simp only [digitsValue?, digitValue?_digitChar 16 le_rfl d hd, Option.bind_some] at h
    have hstep := Nat.toDigits_append_toDigits (b := 16) (by decide) hstart hd
    rw [Nat.toDigits_of_lt_base hd] at hstep
    calc Nat.toDigits 16 start ++ Nat.digitChar d :: rest
        = Nat.toDigits 16 (16 * start + d) ++ rest := by rw [← hstep, List.append_assoc]; rfl
      _ = Nat.toDigits 16 n :=
        ih (by omega) (fun c hc => hlower c (List.mem_cons_of_mem _ hc)) h

theorem natural?_eq_toDigits {cs : List Char} {n : Nat} (hplain : IsPlain cs)
    (h : natural? 16 cs = some n) : cs = Nat.toDigits 16 n := by
  rcases cs with _ | ⟨c, rest⟩
  · exact absurd rfl hplain.nonempty
  · obtain ⟨d, hd, rfl⟩ := exists_digitChar_of_isLowerHex (hplain.lower c List.mem_cons_self)
    have hread : digitsValue? 16 d rest = some n := by
      simpa [natural?, digitsValue?, digitValue?_digitChar 16 le_rfl d hd] using h
    rcases Nat.eq_zero_or_pos d with rfl | hpos
    · obtain rfl : rest = [] := (List.cons.inj (hplain.start rfl)).2
      obtain rfl := Option.some.inj hread
      rfl
    · have hdigits := toDigits_append hpos
        (fun c hc => hplain.lower c (List.mem_cons_of_mem _ hc)) hread
      rwa [Nat.toDigits_of_lt_base hd] at hdigits

/-! ## Numbers of 16 bits -/

theorem unsigned?_of_head {base limit : Nat} {cs : List Char} (h : cs.head? ≠ some '+') :
    unsigned? base limit cs =
      (natural? base cs).bind fun n => if n < limit then some n else none := by
  rcases cs with _ | ⟨c, rest⟩
  · rfl
  · have hc : c ≠ '+' := fun heq => h (by rw [heq]; rfl)
    simp [unsigned?, hc]

/-- A written number has no sign. -/
theorem head?_toDigits_ne {base : Nat} (hone : 1 < base) (hbase : base ≤ 16) (n : Nat) :
    (Nat.toDigits base n).head? ≠ some '+' := by
  intro h
  obtain ⟨d, hd, heq⟩ := mem_toDigits hone (List.mem_of_mem_head? h)
  exact (by decide : ∀ d < 16, '+' ≠ Nat.digitChar d) d (by omega) heq

theorem word16?_toDigits {base : Nat} (hone : 1 < base) (hbase : base ≤ 16) (w : UInt16) :
    word16? base (Nat.toDigits base w.toNat) = some w := by
  rw [word16?, unsigned?_of_head (head?_toDigits_ne hone hbase _), natural?_toDigits hone hbase,
    Option.bind_some, if_pos w.toNat_lt]
  simp

/-- Of all spellings of a number the plain one is the one that is written. -/
theorem word16?_eq_toDigits_iff {cs : List Char} {w : UInt16} (h : word16? 16 cs = some w) :
    cs = Nat.toDigits 16 w.toNat ↔ IsPlain cs := by
  constructor
  · rintro rfl
    exact isPlain_toDigits _
  · intro hplain
    have hsign : cs.head? ≠ some '+' := fun hhead =>
      absurd (hplain.lower _ (List.mem_of_mem_head? hhead)) (by decide)
    rw [word16?, unsigned?_of_head hsign] at h
    obtain ⟨n, hn, rfl⟩ := Option.map_eq_some_iff.mp h
    obtain ⟨m, hm, hbound⟩ := Option.bind_eq_some_iff.mp hn
    obtain ⟨hlt, rfl⟩ := by simpa using hbound
    rw [UInt16.toNat_ofNat_of_lt' hlt]
    exact natural?_eq_toDigits hplain hm

/-! ## Blanks -/

theorem isBlank_of_isLowerHex {c : Char} (h : isLowerHex c) : isBlank c = false := by
  obtain ⟨d, hd, rfl⟩ := exists_digitChar_of_isLowerHex h
  exact (by decide : ∀ d < 16, isBlank (Nat.digitChar d) = false) d hd

theorem trimStart_eq_self {cs : List Char} (h : ∀ c ∈ cs, isBlank c = false) :
    trimStart cs = cs := by
  rcases cs with _ | ⟨c, rest⟩
  · rfl
  · rw [trimStart, List.dropWhile_cons_of_neg (by simp [h c List.mem_cons_self])]

/-- A text without blanks is not trimmed. -/
theorem trim_eq_self {cs : List Char} (h : ∀ c ∈ cs, isBlank c = false) : trim cs = cs := by
  have hreverse : trimStart cs.reverse = cs.reverse :=
    trimStart_eq_self fun c hc => h c (List.mem_reverse.mp hc)
  rw [trim, trimStart_eq_self h, trimEnd]
  exact (congrArg List.reverse hreverse).trans cs.reverse_reverse

end Typelib.Text
