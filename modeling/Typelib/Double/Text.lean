import Typelib.Double.Shortest

/-!
# Doubles in texts

The text of a double shows the digits of `Double.shortest?`.  A `NumberStyle` says for which
powers of ten the digits stand around a decimal point, while for all others they are followed by
an exponent, and which of two equally near decimals is shown.
-/

namespace Typelib

/-- How doubles are written: without an exponent while the power of ten of the first digit is
between `least` and `greatest`. -/
structure NumberStyle where
  least : Int
  greatest : Int
  tie : Tie

namespace Decimal

/-- Digits around a decimal point, with at least one digit on either side. -/
def positional (d : Decimal) : List Char :=
  if d.exponent < 0 then
    ['0', '.'] ++ List.replicate (-d.exponent - 1).toNat '0' ++ d.digits
  else
    let places := d.exponent.toNat + 1
    let padded := d.digits ++ List.replicate (places - d.digits.length) '0'
    let fraction := padded.drop places
    padded.take places ++ ['.'] ++ (if fraction = [] then ['0'] else fraction)

/-- One digit, the other digits after a point if there are any, and the exponent. -/
def scientific (d : Decimal) : List Char :=
  let rest := d.digits.drop 1
  d.digits.take 1 ++ (if rest = [] then [] else '.' :: rest) ++ 'e' ::
    (if d.exponent < 0 then '-' :: Nat.toDigits 10 (-d.exponent).toNat
      else Nat.toDigits 10 d.exponent.toNat)

/-- The text of a decimal in a style. -/
def text (style : NumberStyle) (d : Decimal) : List Char :=
  if style.least ≤ d.exponent ∧ d.exponent ≤ style.greatest then d.positional else d.scientific

end Decimal

namespace Double

/-- The text of a double without its sign. -/
def absoluteText (style : NumberStyle) (d : Double) : List Char :=
  if d.isNaN then ['N', 'a', 'N']
  else if !d.isFinite then ['i', 'n', 'f']
  else if d.significand = 0 then ['0', '.', '0']
  else ((d.shortest? style.tie).map (Decimal.text style)).getD []

/-- The text of a double; a zero keeps its sign, a NaN has none. -/
def text (style : NumberStyle) (d : Double) : String :=
  String.ofList ((if d.isNegative && !d.isNaN then ['-'] else []) ++ d.absoluteText style)

end Double

end Typelib
