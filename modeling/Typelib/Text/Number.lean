/-!
# Numbers in texts

Unsigned numbers as registry keys and designators write them: decimal or hexadecimal digits of
either case, with an optional plus sign, within a given bound.
-/

namespace Typelib.Text

/-- The value of a digit; letters of either case stand for ten and more. -/
def digitValue? (base : Nat) (c : Char) : Option Nat :=
  let value :=
    if '0' ≤ c ∧ c ≤ '9' then c.toNat - '0'.toNat
    else if 'a' ≤ c ∧ c ≤ 'z' then c.toNat - 'a'.toNat + 10
    else if 'A' ≤ c ∧ c ≤ 'Z' then c.toNat - 'A'.toNat + 10
    else base
  if value < base then some value else none

/-- The value of a row of digits that continues a number read so far. -/
def digitsValue? (base : Nat) (start : Nat) : List Char → Option Nat
  | [] => some start
  | c :: rest => (digitValue? base c).bind fun d => digitsValue? base (base * start + d) rest

/-- The number a nonempty row of digits denotes. -/
def natural? (base : Nat) : List Char → Option Nat
  | [] => none
  | cs => digitsValue? base 0 cs

/-- An unsigned number below `limit`, with an optional plus sign. -/
def unsigned? (base limit : Nat) (cs : List Char) : Option Nat :=
  let digits := match cs with
    | '+' :: rest => rest
    | _ => cs
  (natural? base digits).bind fun n => if n < limit then some n else none

/-- An unsigned number of 16 bits. -/
def word16? (base : Nat) (cs : List Char) : Option UInt16 :=
  (unsigned? base UInt16.size cs).map UInt16.ofNat

/-- An unsigned number of 32 bits. -/
def word32? (base : Nat) (cs : List Char) : Option UInt32 :=
  (unsigned? base UInt32.size cs).map UInt32.ofNat

/-- Hexadecimal digits in lower case, without leading zeros. -/
def hexadecimal (n : Nat) : String := String.ofList (Nat.toDigits 16 n)

/-- The last `width` hexadecimal digits, in lower case, leading zeros included. -/
def fixedHex : Nat → Nat → List Char
  | 0, _ => []
  | width + 1, n => fixedHex width (n / 16) ++ [Nat.digitChar (n % 16)]

example : unsigned? 16 65536 ['+', 'f', 'F'] = some 255 := by decide

example : unsigned? 10 65536 ['6', '5', '5', '3', '6'] = none := by decide

example : fixedHex 4 0x2a = ['0', '0', '2', 'a'] := by decide

@[simp] theorem length_fixedHex {width n : Nat} : (fixedHex width n).length = width := by
  induction width generalizing n with
  | zero => rfl
  | succ width ih => simp [fixedHex, ih]

end Typelib.Text
