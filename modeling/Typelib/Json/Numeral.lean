import Typelib.Json.Basic

/-!
# Numerals

A `Numeral` is a number as it is written: sign, whole digits, digits of the fraction and exponent.
`Numeral.parse?` accepts the grammar of documents, and `Numeral.value?` gives the number.  A
numeral without fraction and exponent is an integer while it fits 64 bits.  Any other is a double:
its leading digits are collected as long as they fit 64 bits, the digits after those only move
the decimal point, and one multiplication or division by a power of ten follows.  A numeral too
large for a double has no value.
-/

namespace Typelib

/-- A number as it is written. -/
structure Numeral where
  negative : Bool
  whole : List Nat
  fraction : Option (List Nat)
  exponent : Option Int
  deriving DecidableEq

namespace Numeral

/-- The value of a decimal digit. -/
def digit? (c : Char) : Option Nat := if c.isDigit then some (c.toNat - '0'.toNat) else none

/-- Reads a nonempty row of digits. -/
def digits? (cs : List Char) : Option (List Nat) :=
  if cs = [] then none else cs.mapM digit?

/-- Reads the digits of an exponent, with an optional sign. -/
def exponent? (cs : List Char) : Option Int :=
  let value := fun digits : List Char =>
    (digits? digits).map fun ds => ((ds.foldl (fun n d => 10 * n + d) 0 : Nat) : Int)
  match cs with
  | '-' :: rest => (value rest).map fun n => -n
  | '+' :: rest => value rest
  | _ => value cs

/-- Reads a numeral; a leading zero stands alone, and a point has digits on both sides. -/
def parse? (cs : List Char) : Option Numeral := do
  let (negative, size) := match cs with
    | '-' :: rest => (true, rest)
    | _ => (false, cs)
  let isMark := fun c : Char => c = 'e' ∨ c = 'E'
  let mantissa := size.takeWhile fun c => ¬ isMark c
  let exponent ← match size.dropWhile fun c => ¬ isMark c with
    | [] => some none
    | _ :: rest => (exponent? rest).map some
  let whole ← digits? (mantissa.takeWhile (· ≠ '.'))
  let fraction ← match mantissa.dropWhile (· ≠ '.') with
    | [] => some none
    | _ :: rest => (digits? rest).map some
  if whole.head? = some 0 ∧ whole ≠ [0] then none
  else some ⟨negative, whole, fraction, exponent⟩

/-- The digits collected so far, and the power of ten their last one stands for. -/
structure Collected where
  significand : Nat
  power : Int
  full : Bool

/-- Collects a digit of the whole part; the first that does not fit ends the collection, and from
then on every digit raises the power. -/
def Collected.addWhole (c : Collected) (d : Nat) : Collected :=
  if c.full then { c with power := c.power + 1 }
  else if 10 * c.significand + d < UInt64.size then
    { c with significand := 10 * c.significand + d }
  else { c with power := c.power + 1, full := true }

/-- Collects a digit of the fraction; the first that does not fit ends the collection. -/
def Collected.addFraction (c : Collected) (d : Nat) : Collected :=
  if c.full then c
  else if 10 * c.significand + d < UInt64.size then
    { c with significand := 10 * c.significand + d, power := c.power - 1 }
  else { c with full := true }

/-- The digits of a numeral, collected. -/
def collected (n : Numeral) : Collected :=
  let whole := n.whole.foldl Collected.addWhole ⟨0, 0, false⟩
  (n.fraction.getD []).foldl Collected.addFraction { whole with full := false }

/-- The float nearest to a power of ten. -/
def powerOfTen (n : Nat) : Float := Float.ofScientific 1 false n

/-- Divides by `10 ^ power`, at most `10 ^ 308` at a time. -/
def divided (f : Float) (power : Nat) : Float :=
  if power ≤ 308 then f / powerOfTen power
  else if f == 0 then f
  else divided (f / powerOfTen 308) (power - 308)
termination_by power

/-- The float `significand * 10 ^ power`, if it is finite. -/
def scaled? (significand : Nat) (power : Int) : Option Float :=
  let f := significand.toUInt64.toFloat
  if power < 0 then some (divided f (-power).toNat)
  else if f == 0 then some f
  else if 308 < power then none
  else
    let product := f * powerOfTen power.toNat
    if product.isInf then none else some product

/-- Exponents from here on are out of range, whatever the digits. -/
def exponentLimit : Int := 0x80000000

/-- The absolute value of a numeral, as a double. -/
def size? (n : Numeral) : Option Float :=
  let digits := n.collected
  match n.exponent with
  | none => scaled? digits.significand digits.power
  | some e =>
    if e < exponentLimit ∧ -exponentLimit < e then
      scaled? digits.significand (max (-exponentLimit) (min (exponentLimit - 1) (digits.power + e)))
    else if 0 < e ∧ digits.significand ≠ 0 then none
    else some 0

/-- The number a numeral denotes. -/
def value? (n : Numeral) : Option Number :=
  let asDouble := n.size?.map fun f => Number.double (.ofFloat (if n.negative then -f else f))
  if n.fraction.isNone ∧ n.exponent.isNone then
    let size : Nat := n.whole.foldl (fun m d => 10 * m + d) 0
    if n.negative then
      if 0 < size ∧ size ≤ 0x8000000000000000 then some (.integer (-(size : Int))) else asDouble
    else if size < UInt64.size then some (.integer size)
    else asDouble
  else asDouble

end Numeral

end Typelib
