import Typelib.Proofs.Text.Reading
import Typelib.Proofs.Text.Segments

/-!
# Spellings of numbers

A number in hexadecimal has many spellings besides the one that it is written in: capitals, leading
zeros and a plus sign make no difference (`SpellsHex`).  Exactly these are read as the number
(`word16?_eq_some_iff`), and exactly the blanks at the ends of a text are removed before
(`trim_eq_iff`).  The same goes for numbers in decimal (`SpellsDecimal`,
`unsigned?_ten_eq_some_iff`).
-/

namespace Typelib.Text

/-- Hexadecimal digits that spell a number: those that it is written with, in either case, after any
number of zeros. -/
def SpellsDigits (cs : List Char) (n : Nat) : Prop :=
  ∃ zeros, cs.map Char.toLower = List.replicate zeros '0' ++ Nat.toDigits 16 n

/-- A text that spells a number in hexadecimal: digits, with a plus sign before them or without. -/
def SpellsHex (cs : List Char) (n : Nat) : Prop :=
  SpellsDigits cs n ∨ ∃ digits, cs = '+' :: digits ∧ SpellsDigits digits n

/-! ## Digits of either case -/

theorem toNat_lt_of_digitValue? {c : Char} {d : Nat} (h : digitValue? 16 c = some d) :
    c.toNat < 128 := by
  by_contra hlarge
  have hends : 'z'.val.toNat = 122 ∧ '9'.val.toNat = 57 ∧ 'Z'.val.toNat = 90 := by decide
  have hc : c.val.toNat = c.toNat := rfl
  have hbeyond : ¬c ≤ '9' ∧ ¬c ≤ 'z' ∧ ¬c ≤ 'Z' := by
    simp only [Char.le_def, UInt32.le_iff_toNat_le]
    omega
  simp [digitValue?, hbeyond] at h

theorem toNat_lt_of_toLower {c : Char} {d : Nat} (hd : d < 16)
    (h : c.toLower = Nat.digitChar d) : c.toNat < 128 := by
  by_contra hlarge
  have hupper : c.isUpper = false := by
    have hend : 'Z'.val.toNat = 90 := by decide
    have hc : c.val.toNat = c.toNat := rfl
    have hbeyond : ¬c.val ≤ 'Z'.val := by
      rw [UInt32.le_iff_toNat_le]
      omega
    simp only [Char.isUpper, hbeyond, and_false, decide_false]
  rw [Char.toLower_eq_of_not_isUpper (by simp [hupper])] at h
  have hsmall : ∀ d < 16, (Nat.digitChar d).toNat < 128 := by decide
  exact hlarge (h ▸ hsmall d hd)

/-- A character is read as a digit exactly if it is that digit in lower case. -/
theorem digitValue?_eq_some_iff {c : Char} {d : Nat} :
    digitValue? 16 c = some d ↔ d < 16 ∧ c.toLower = Nat.digitChar d := by
  have hascii : ∀ n < 128, ∀ d < 16,
      digitValue? 16 (Char.ofNat n) = some d ↔ (Char.ofNat n).toLower = Nat.digitChar d := by
    decide
  have hread (hc : c.toNat < 128) (hd : d < 16) :
      digitValue? 16 c = some d ↔ c.toLower = Nat.digitChar d := by
    have hfound := hascii c.toNat hc d hd
    rwa [Char.ofNat_toNat] at hfound
  constructor
  · intro h
    have hd : d < 16 := by
      have hvalue := h
      simp only [digitValue?, Option.ite_none_right_eq_some, Option.some.injEq] at hvalue
      exact hvalue.2 ▸ hvalue.1
    exact ⟨hd, (hread (toNat_lt_of_digitValue? h) hd).mp h⟩
  · rintro ⟨hd, hlower⟩
    exact (hread (toNat_lt_of_toLower hd hlower) hd).mpr hlower

/-- The case of the letters makes no difference. -/
theorem digitsValue?_toLower {start : Nat} (cs : List Char) :
    digitsValue? 16 start (cs.map Char.toLower) = digitsValue? 16 start cs := by
  have hdigit (c : Char) : digitValue? 16 c.toLower = digitValue? 16 c := by
    refine Option.ext fun d => ?_
    rw [digitValue?_eq_some_iff, digitValue?_eq_some_iff, Char.toLower_toLower_eq_toLower]
  induction cs generalizing start with
  | nil => rfl
  | cons c rest ih => simp only [List.map_cons, digitsValue?, hdigit, ih]

theorem digitsValue?_toUpper {start : Nat} (cs : List Char) :
    digitsValue? 16 start (cs.map Char.toUpper) = digitsValue? 16 start cs := by
  have hlower : Char.toLower ∘ Char.toUpper = Char.toLower :=
    funext Char.toLower_toUpper_eq_toLower
  rw [← digitsValue?_toLower (cs.map Char.toUpper), List.map_map, hlower, digitsValue?_toLower]

/-- Digits that are read are those of their value, in the width that they have. -/
theorem fixedHex_of_digitsValue? {cs : List Char} {start n : Nat}
    (h : digitsValue? 16 start cs = some n) :
    fixedHex cs.length n = cs.map Char.toLower ∧ n < (start + 1) * 16 ^ cs.length := by
  induction cs using List.reverseRecOn generalizing n with
  | nil =>
    obtain rfl := Option.some.inj h
    exact ⟨rfl, by simp⟩
  | append_singleton cs c ih =>
    rw [digitsValue?_append, Option.bind_eq_some_iff] at h
    obtain ⟨m, hm, hlast⟩ := h
    simp only [digitsValue?, Option.bind_eq_some_iff, Option.some.injEq] at hlast
    obtain ⟨d, hdigit, rfl⟩ := hlast
    obtain ⟨hd, hlower⟩ := digitValue?_eq_some_iff.mp hdigit
    obtain ⟨hfront, hbound⟩ := ih hm
    have hquotient : (16 * m + d) / 16 = m := by omega
    have hremainder : (16 * m + d) % 16 = d := by omega
    constructor
    · simp [fixedHex, hquotient, hremainder, hfront, hlower]
    · rw [List.length_append, List.length_singleton, Nat.pow_succ, ← Nat.mul_assoc]
      omega

theorem digitsValue?_zeros {cs : List Char} (zeros : Nat) :
    digitsValue? 16 0 (List.replicate zeros '0' ++ cs) = digitsValue? 16 0 cs := by
  induction zeros with
  | zero => rfl
  | succ zeros ih =>
    have hzero : digitValue? 16 '0' = some 0 := by decide
    simpa [List.replicate_succ, digitsValue?, hzero] using ih

theorem isLowerHex_of_digitsValue? {cs : List Char} {start n : Nat}
    (h : digitsValue? 16 start cs = some n) : ∀ c ∈ cs.map Char.toLower, isLowerHex c := by
  induction cs generalizing start with
  | nil => simp
  | cons c rest ih =>
    obtain ⟨d, hdigit, hrest⟩ := Option.bind_eq_some_iff.mp h
    obtain ⟨hd, hlower⟩ := digitValue?_eq_some_iff.mp hdigit
    rw [List.map_cons, List.forall_mem_cons]
    exact ⟨hlower ▸ isLowerHex_digitChar d hd, ih hrest⟩

/-- Digits that are read spell the number that they are read as. -/
theorem spellsDigits_of_digitsValue? {cs : List Char} {n : Nat} (hne : cs ≠ [])
    (h : digitsValue? 16 0 cs = some n) : SpellsDigits cs n := by
  induction cs with
  | nil => exact absurd rfl hne
  | cons c rest ih =>
    obtain ⟨d, hdigit, hrest⟩ := Option.bind_eq_some_iff.mp h
    obtain ⟨hd, hlower⟩ := digitValue?_eq_some_iff.mp hdigit
    rw [Nat.mul_zero, Nat.zero_add] at hrest
    rcases Nat.eq_zero_or_pos d with rfl | hpos
    · -- a zero in front is a leading one, unless nothing follows it
      rcases rest with _ | ⟨next, more⟩
      · obtain rfl := Option.some.inj hrest
        exact ⟨0, by rw [List.map_singleton, hlower]; rfl⟩
      · obtain ⟨zeros, heq⟩ := ih (List.cons_ne_nil _ _) hrest
        exact ⟨zeros + 1, by rw [List.map_cons, hlower, heq, List.replicate_succ]; rfl⟩
    · refine ⟨0, ?_⟩
      have hdigits := toDigits_append hpos (isLowerHex_of_digitsValue? hrest)
        ((digitsValue?_toLower rest).trans hrest)
      rw [Nat.toDigits_of_lt_base hd] at hdigits
      rw [List.map_cons, hlower]
      exact hdigits

theorem SpellsDigits.ne_nil {cs : List Char} {n : Nat} (h : SpellsDigits cs n) : cs ≠ [] := by
  obtain ⟨zeros, heq⟩ := h
  rintro rfl
  exact Nat.toDigits_ne_nil (List.append_eq_nil_iff.mp heq.symm).2

/-- Digits are read as a number exactly if they spell it. -/
theorem natural?_eq_some_iff {cs : List Char} {n : Nat} :
    natural? 16 cs = some n ↔ SpellsDigits cs n := by
  constructor
  · intro h
    have hne : cs ≠ [] := by
      rintro rfl
      cases h
    exact spellsDigits_of_digitsValue? hne (natural?_of_ne_nil hne ▸ h)
  · intro h
    obtain ⟨zeros, heq⟩ := h
    rw [natural?_of_ne_nil (SpellsDigits.ne_nil ⟨zeros, heq⟩), ← digitsValue?_toLower, heq,
      digitsValue?_zeros, digitsValue?_toDigits (by decide) (by decide)]

/-! ## Numbers of 16 bits -/

/-- Digits are neither blanks nor signs nor dots. -/
theorem SpellsDigits.chars {cs : List Char} {n : Nat} (h : SpellsDigits cs n) :
    ∀ c ∈ cs, isBlank c = false ∧ c ∉ ['+', '.'] := by
  have hascii : ∀ n < 128, ∀ d < 16, (Char.ofNat n).toLower = Nat.digitChar d →
      isBlank (Char.ofNat n) = false ∧ Char.ofNat n ∉ ['+', '.'] := by decide
  have hread := natural?_eq_some_iff.mpr h
  rw [natural?_of_ne_nil h.ne_nil] at hread
  intro c hc
  obtain ⟨d, hd, hlower⟩ := exists_digitChar_of_isLowerHex
    (isLowerHex_of_digitsValue? hread _ (List.mem_map_of_mem hc))
  have hfound := hascii c.toNat (toNat_lt_of_toLower hd hlower.symm) d hd
  rw [Char.ofNat_toNat] at hfound
  exact hfound hlower.symm

theorem SpellsHex.chars {cs : List Char} {n : Nat} (h : SpellsHex cs n) :
    ∀ c ∈ cs, isBlank c = false ∧ c ≠ '.' := by
  have hdigits {cs : List Char} (h : SpellsDigits cs n) : ∀ c ∈ cs, isBlank c = false ∧ c ≠ '.' :=
    fun c hc => ⟨(h.chars c hc).1, fun heq => (h.chars c hc).2 (by simp [heq])⟩
  rcases h with h | ⟨digits, rfl, h⟩
  · exact hdigits h
  · exact List.forall_mem_cons.mpr ⟨by decide, hdigits h⟩

/-- A sign is no digit. -/
theorem natural?_cons_plus (base : Nat) (digits : List Char) :
    natural? base ('+' :: digits) = none := by
  simp [natural?, digitsValue?, digitValue?]

/-- A number is read from digits, with a plus sign before them or without, if it is below the
bound. -/
theorem unsigned?_iff_natural? {base limit : Nat} {cs : List Char} {n : Nat} :
    unsigned? base limit cs = some n ↔
      (natural? base cs = some n ∨ ∃ digits, cs = '+' :: digits ∧ natural? base digits = some n) ∧
        n < limit := by
  have hbound (digits : List Char) :
      ((natural? base digits).bind fun m => if m < limit then some m else none) = some n ↔
        natural? base digits = some n ∧ n < limit := by
    rcases natural? base digits with _ | m
    · simp
    · simp only [Option.bind_some, Option.ite_none_right_eq_some, Option.some.injEq]
      exact ⟨fun ⟨hlt, heq⟩ => ⟨heq, heq ▸ hlt⟩, fun ⟨heq, hlt⟩ => ⟨heq ▸ hlt, heq⟩⟩
  by_cases hsign : cs.head? = some '+'
  · obtain ⟨digits, rfl⟩ := List.head?_eq_some_iff.mp hsign
    have hread : unsigned? base limit ('+' :: digits) =
        (natural? base digits).bind fun m => if m < limit then some m else none := rfl
    simp [hread, hbound, natural?_cons_plus]
  · have hdigits : ∀ digits, cs ≠ '+' :: digits := by
      rintro digits rfl
      exact hsign rfl
    rw [unsigned?_of_head hsign, hbound]
    simp [hdigits]

theorem unsigned?_eq_some_iff {limit : Nat} {cs : List Char} {n : Nat} :
    unsigned? 16 limit cs = some n ↔ SpellsHex cs n ∧ n < limit := by
  simp only [unsigned?_iff_natural?, natural?_eq_some_iff, SpellsHex]

theorem word16?_iff_unsigned? {base : Nat} {cs : List Char} {w : UInt16} :
    word16? base cs = some w ↔ unsigned? base UInt16.size cs = some w.toNat := by
  rw [word16?, Option.map_eq_some_iff]
  constructor
  · rintro ⟨n, hn, rfl⟩
    rwa [UInt16.toNat_ofNat_of_lt' (unsigned?_iff_natural?.mp hn).2]
  · intro h
    exact ⟨w.toNat, h, UInt16.ofNat_toNat⟩

theorem word32?_iff_unsigned? {base : Nat} {cs : List Char} {w : UInt32} :
    word32? base cs = some w ↔ unsigned? base UInt32.size cs = some w.toNat := by
  rw [word32?, Option.map_eq_some_iff]
  constructor
  · rintro ⟨n, hn, rfl⟩
    rwa [UInt32.toNat_ofNat_of_lt' (unsigned?_iff_natural?.mp hn).2]
  · intro h
    exact ⟨w.toNat, h, UInt32.ofNat_toNat⟩

/-- A text is read as a number of 16 bits exactly if it spells it. -/
theorem word16?_eq_some_iff {cs : List Char} {w : UInt16} :
    word16? 16 cs = some w ↔ SpellsHex cs w.toNat := by
  rw [word16?_iff_unsigned?, unsigned?_eq_some_iff, and_iff_left w.toNat_lt]

/-! ## Decimal numbers -/

/-- Decimal digits that spell a number, with any number of zeros in front. -/
structure SpellsDecimalDigits (cs : List Char) (n : Nat) : Prop where
  nonempty : cs ≠ []
  digits : ∀ c ∈ cs, c.isDigit
  value : Nat.ofDigitChars 10 cs 0 = n

/-- A text that spells a number in decimal: digits, with a plus sign before them or without. -/
def SpellsDecimal (cs : List Char) (n : Nat) : Prop :=
  SpellsDecimalDigits cs n ∨ ∃ digits, cs = '+' :: digits ∧ SpellsDecimalDigits digits n

theorem isDigit_iff {c : Char} : c.isDigit ↔ '0' ≤ c ∧ c ≤ '9' := by
  simp [Char.isDigit, Char.le_def]

theorem digitValue?_ten_eq_some_iff {c : Char} {d : Nat} :
    digitValue? 10 c = some d ↔ c.isDigit ∧ c.toNat - '0'.toNat = d := by
  rw [isDigit_iff]
  by_cases hdigit : '0' ≤ c ∧ c ≤ '9'
  · have hsmall : c.toNat - '0'.toNat < 10 := by
      have hle : c.toNat ≤ '9'.toNat := UInt32.le_iff_toNat_le.mp hdigit.2
      have hends : '9'.toNat = 57 ∧ '0'.toNat = 48 := by decide
      omega
    simp only [digitValue?, hdigit, and_self, if_true, hsmall, true_and, Option.some.injEq]
  · -- a letter counts for ten or more, and anything else for nothing
    have hnone : digitValue? 10 c = none := by
      simp only [digitValue?, hdigit, if_false]
      split
      · exact if_neg (by omega)
      · split
        · exact if_neg (by omega)
        · exact if_neg (by omega)
    simp [hnone, hdigit]

theorem digitsValue?_ten_eq_some_iff {cs : List Char} {start n : Nat} :
    digitsValue? 10 start cs = some n ↔
      (∀ c ∈ cs, c.isDigit) ∧ Nat.ofDigitChars 10 cs start = n := by
  induction cs generalizing start with
  | nil => simp [digitsValue?]
  | cons c rest ih =>
    rw [digitsValue?, Option.bind_eq_some_iff, List.forall_mem_cons, Nat.ofDigitChars_cons]
    constructor
    · rintro ⟨d, hdigit, hrest⟩
      obtain ⟨hc, rfl⟩ := digitValue?_ten_eq_some_iff.mp hdigit
      obtain ⟨hdigits, hvalue⟩ := ih.mp hrest
      exact ⟨⟨hc, hdigits⟩, hvalue⟩
    · rintro ⟨⟨hc, hdigits⟩, hvalue⟩
      exact ⟨_, digitValue?_ten_eq_some_iff.mpr ⟨hc, rfl⟩, ih.mpr ⟨hdigits, hvalue⟩⟩

/-- Digits are read as a number in decimal exactly if they spell it. -/
theorem natural?_ten_eq_some_iff {cs : List Char} {n : Nat} :
    natural? 10 cs = some n ↔ SpellsDecimalDigits cs n := by
  constructor
  · intro h
    have hne : cs ≠ [] := by
      rintro rfl
      cases h
    rw [natural?_of_ne_nil hne, digitsValue?_ten_eq_some_iff] at h
    exact ⟨hne, h.1, h.2⟩
  · intro h
    rw [natural?_of_ne_nil h.nonempty, digitsValue?_ten_eq_some_iff]
    exact ⟨h.digits, h.value⟩

theorem unsigned?_ten_eq_some_iff {limit : Nat} {cs : List Char} {n : Nat} :
    unsigned? 10 limit cs = some n ↔ SpellsDecimal cs n ∧ n < limit := by
  simp only [unsigned?_iff_natural?, natural?_ten_eq_some_iff, SpellsDecimal]

/-- No character of a number is a blank. -/
theorem SpellsDecimal.not_blank {cs : List Char} {n : Nat} (h : SpellsDecimal cs n) :
    ∀ c ∈ cs, isBlank c = false := by
  have hdigits {digits : List Char} (h : SpellsDecimalDigits digits n) :
      ∀ c ∈ digits, isBlank c = false := by
    intro c hc
    exact isBlank_of_isLowerHex (by rw [isLowerHex, h.digits c hc, Bool.true_or])
  rcases h with h | ⟨digits, rfl, h⟩
  · exact hdigits h
  · exact List.forall_mem_cons.mpr ⟨by decide, hdigits h⟩

/-- A number spells itself as it is written. -/
theorem spellsDecimal_toDigits (n : Nat) : SpellsDecimal (Nat.toDigits 10 n) n :=
  .inl ⟨Nat.toDigits_ne_nil,
    fun _ hc => Nat.isDigit_of_mem_toDigits (by decide) (by decide) hc,
    Nat.ofDigitChars_toDigits (by decide) (by decide)⟩

/-! ## Blanks at the ends -/

theorem trimStart_append {before rest : List Char} (h : ∀ c ∈ before, isBlank c) :
    trimStart (before ++ rest) = trimStart rest :=
  List.dropWhile_append_of_pos h

theorem trimEnd_append {inner after : List Char} (h : ∀ c ∈ after, isBlank c) :
    trimEnd (inner ++ after) = trimEnd inner := by
  rw [trimEnd, List.reverse_append,
    List.dropWhile_append_of_pos fun c hc => h c (List.mem_reverse.mp hc), trimEnd]

theorem exists_trimEnd (cs : List Char) :
    ∃ after, cs = trimEnd cs ++ after ∧ ∀ c ∈ after, isBlank c := by
  refine ⟨(cs.reverse.takeWhile isBlank).reverse, ?_, ?_⟩
  · rw [trimEnd, ← List.reverse_append, List.takeWhile_append_dropWhile, List.reverse_reverse]
  · intro c hc
    exact List.mem_takeWhile_imp (List.mem_reverse.mp hc)

/-- What is removed from the ends of a text is blank. -/
theorem exists_trim (cs : List Char) :
    ∃ before after, cs = before ++ trim cs ++ after ∧ ∀ c ∈ before ++ after, isBlank c := by
  obtain ⟨after, hend, hafter⟩ := exists_trimEnd (trimStart cs)
  have hstart : cs.takeWhile isBlank ++ trimStart cs = cs := List.takeWhile_append_dropWhile
  refine ⟨cs.takeWhile isBlank, after, ?_, ?_⟩
  · rw [trim, List.append_assoc, ← hend, hstart]
  · rw [List.forall_mem_append]
    exact ⟨fun _ => List.mem_takeWhile_imp, hafter⟩

/-- Blanks around a text are removed with those at its own ends. -/
theorem trim_append {before inner after : List Char} (h : ∀ c ∈ before ++ after, isBlank c) :
    trim (before ++ inner ++ after) = trim inner := by
  obtain ⟨hbefore, hafter⟩ := List.forall_mem_append.mp h
  rw [trim, List.append_assoc, trimStart_append hbefore, trim]
  rcases hkept : trimStart inner with _ | ⟨c, rest⟩
  · -- nothing but blanks is left
    have hnothing : trimStart (inner ++ after) = [] := by
      refine List.dropWhile_eq_nil_iff.mpr fun c hc => ?_
      rcases List.mem_append.mp hc with hc | hc
      · exact List.dropWhile_eq_nil_iff.mp hkept c hc
      · exact hafter c hc
    rw [hnothing]
  · have hstart : trimStart (inner ++ after) = trimStart inner ++ after := by
      have hne : (inner.dropWhile isBlank).isEmpty = false := by
        rw [show inner.dropWhile isBlank = c :: rest from hkept]
        rfl
      rw [trimStart, List.dropWhile_append, hne]
      rfl
    rw [hstart, trimEnd_append hafter, hkept]

theorem trim_trim (cs : List Char) : trim (trim cs) = trim cs := by
  obtain ⟨before, after, heq, hblank⟩ := exists_trim cs
  have htrim : trim (before ++ trim cs ++ after) = trim (trim cs) := trim_append hblank
  rwa [← heq, eq_comm] at htrim

/-- A text without blanks is left over of exactly the texts with blanks around it. -/
theorem trim_eq_iff {cs inner : List Char} (h : ∀ c ∈ inner, isBlank c = false) :
    trim cs = inner ↔
      ∃ before after, cs = before ++ inner ++ after ∧ ∀ c ∈ before ++ after, isBlank c := by
  constructor
  · rintro rfl
    exact exists_trim cs
  · rintro ⟨before, after, rfl, hblank⟩
    rw [trim_append hblank, trim_eq_self h]

end Typelib.Text
