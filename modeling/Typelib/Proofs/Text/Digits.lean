import Mathlib
import Typelib.Text.Number

/-!
# Digits

A row of hexadecimal digits of a fixed width determines the number up to a power of sixteen, in
either case of the letters (`fixedHex_upper_injective`); decimal digits determine the number
(`toDigits_ten_injective`).
-/

namespace Typelib.Text

theorem mem_fixedHex {width n : Nat} {c : Char} (h : c ∈ fixedHex width n) :
    ∃ d < 16, c = Nat.digitChar d := by
  induction width generalizing n with
  | zero => simp [fixedHex] at h
  | succ width ih =>
    simp only [fixedHex, List.mem_append, List.mem_singleton] at h
    rcases h with h | h
    · exact ih h
    · exact ⟨n % 16, Nat.mod_lt _ (by decide), h⟩

theorem mem_toDigits {base n : Nat} (hbase : 1 < base) {c : Char} (h : c ∈ Nat.toDigits base n) :
    ∃ d < base, c = Nat.digitChar d := by
  induction n using Nat.strong_induction_on with
  | _ n ih =>
    rw [Nat.toDigits_eq_if hbase] at h
    split at h
    · rename_i hlt
      exact ⟨n, hlt, List.mem_singleton.mp h⟩
    · rename_i hge
      rcases List.mem_append.mp h with h | h
      · exact ih (n / base) (Nat.div_lt_self (by omega) hbase) h
      · exact ⟨n % base, Nat.mod_lt n (by omega), List.mem_singleton.mp h⟩

/-- The digits differ from each other in upper case as well. -/
theorem digitChar_toUpper_injective :
    ∀ a < 16, ∀ b < 16, (Nat.digitChar a).toUpper = (Nat.digitChar b).toUpper → a = b := by
  decide

theorem fixedHex_upper_injective {width m n : Nat}
    (h : (fixedHex width m).map Char.toUpper = (fixedHex width n).map Char.toUpper) :
    m % 16 ^ width = n % 16 ^ width := by
  induction width generalizing m n with
  | zero => simp [Nat.mod_one]
  | succ width ih =>
    simp only [fixedHex, List.map_append, List.map_cons, List.map_nil] at h
    obtain ⟨hfront, hlast⟩ := List.append_inj' h rfl
    have hfront : m / 16 % 16 ^ width = n / 16 % 16 ^ width := ih hfront
    have hlast : m % 16 = n % 16 :=
      digitChar_toUpper_injective _ (Nat.mod_lt _ (by decide)) _ (Nat.mod_lt _ (by decide))
        (by simpa using hlast)
    rw [Nat.pow_succ', Nat.mod_mul, Nat.mod_mul, hfront, hlast]

theorem toList_toString (n : Nat) : (toString n).toList = Nat.toDigits 10 n := by
  rw [Nat.toString_eq_ofList_toDigits, String.toList_ofList]

theorem toDigits_ten_injective {m n : Nat} (h : Nat.toDigits 10 m = Nat.toDigits 10 n) :
    m = n := by
  have hvalue := congrArg (Nat.ofDigitChars 10 · 0) h
  simpa only [Nat.ofDigitChars_ten_toDigits] using hvalue

end Typelib.Text
