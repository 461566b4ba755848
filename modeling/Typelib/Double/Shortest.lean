import Typelib.Double.Basic

/-!
# The shortest decimal that reads back

Every real number in a certain interval around a double is nearest to that double, so any decimal
of the interval reads back as it; the ends belong to it when the significand is even.
`Double.shortest?` takes the coarsest decimal grid with a point in the interval and, of two such
points, the nearer one to the double; a `Tie` says which one is taken when both are equally near.
Only the two neighbours of the double on a grid need to be tried, in exact arithmetic on natural
numbers.
-/

namespace Typelib

/-- Which of two equally near decimals is taken: the larger one, or the one with an even last
digit. -/
inductive Tie where
  | up
  | even
  deriving DecidableEq

/-- Whether the larger one of two equally near numbers is taken, given the smaller one. -/
def Tie.takesAbove (below : Nat) : Tie → Bool
  | up => true
  | even => below % 2 = 1

/-- A decimal number: its digits, the first of them not zero, and the power of ten of the first. -/
structure Decimal where
  digits : List Char
  exponent : Int
  deriving DecidableEq

namespace Decimal

/-- The decimal `n * 10 ^ power` without zeros at its end. -/
def ofScaled (n : Nat) (power : Int) : Decimal :=
  let digits := Nat.toDigits 10 n
  ⟨(digits.reverse.dropWhile (· = '0')).reverse, power + digits.length - 1⟩

end Decimal

/-- The interval of reals nearest to a number, as three fractions with one denominator. -/
structure Neighbourhood where
  low : Nat
  middle : Nat
  high : Nat
  denominator : Nat
  closed : Bool

namespace Neighbourhood

/-- The reals nearest to a finite double, in quarters of its last place. -/
def ofDouble (d : Double) : Neighbourhood :=
  let m := d.significand
  let shift := d.scale - 2
  let up := 1 <<< shift.toNat
  let gap := if d.isPowerOfTwo then 1 else 2
  ⟨(4 * m - gap) * up, 4 * m * up, (4 * m + 2) * up, 1 <<< (-shift).toNat, m % 2 = 0⟩

/-- The power of ten of the first digit of the number in the middle. -/
def leading (i : Neighbourhood) : Int :=
  let whole := i.middle / i.denominator
  if whole = 0 then
    let places := (List.range 400).find? fun j => decide (i.denominator ≤ i.middle * Nat.pow 10 j)
    Int.negOfNat (places.getD 400)
  else (Nat.toDigits 10 whole).length - 1

/-- Measured in units of `10 ^ power`. -/
def inUnits (i : Neighbourhood) (power : Int) : Neighbourhood :=
  let up := Nat.pow 10 (-power).toNat
  ⟨i.low * up, i.middle * up, i.high * up, i.denominator * Nat.pow 10 power.toNat, i.closed⟩

/-- Whether a whole number of units lies in the interval. -/
def holds (i : Neighbourhood) (n : Nat) : Bool :=
  let x := n * i.denominator
  if i.closed then i.low ≤ x && x ≤ i.high else i.low < x && x < i.high

/-- The whole number of units in the interval that is nearest to its middle. -/
def nearest? (tie : Tie) (i : Neighbourhood) : Option Nat :=
  let below := i.middle / i.denominator
  let above := below + 1
  match i.holds below, i.holds above with
  | true, true =>
    let down := i.middle - below * i.denominator
    let up := above * i.denominator - i.middle
    some (if up < down ∨ up = down ∧ tie.takesAbove below then above else below)
  | true, false => some below
  | false, true => some above
  | false, false => none

/-- The point with the given number of digits that lies in the interval. -/
def withDigits? (tie : Tie) (i : Neighbourhood) (count : Nat) : Option Decimal :=
  let power := i.leading - count + 1
  ((i.inUnits power).nearest? tie).map fun n => Decimal.ofScaled n power

end Neighbourhood

/-- The shortest decimal nearest to a finite double other than zero; seventeen digits are always
enough. -/
def Double.shortest? (tie : Tie) (d : Double) : Option Decimal :=
  let i := Neighbourhood.ofDouble d
  (List.range 17).findSome? fun n => i.withDigits? tie (n + 1)

end Typelib
