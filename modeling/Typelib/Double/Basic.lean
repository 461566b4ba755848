/-!
# Double-precision numbers

A `Double` is a number of the 64-bit binary format, held by its bits: a sign, eleven bits of
exponent and fifty-two bits of fraction.  A finite one has the absolute value
`significand * 2 ^ scale`.
-/

namespace Typelib

/-- A double-precision number, given by its bits. -/
structure Double where
  bits : UInt64
  deriving DecidableEq

namespace Double

/-- The number a machine float holds. -/
def ofFloat (f : Float) : Double := ⟨f.toBits⟩

/-- The double nearest to an integer of at most 64 bits. -/
def ofInt (n : Int) : Double :=
  let size := n.natAbs.toUInt64.toFloat
  ofFloat (if n < 0 then -size else size)

/-- A quiet NaN without a sign. -/
def nan : Double := ⟨0x7ff8000000000000⟩

def infinity : Double := ⟨0x7ff0000000000000⟩

def negativeInfinity : Double := ⟨0xfff0000000000000⟩

/-- Whether the sign bit is set. -/
def isNegative (d : Double) : Bool := decide (0x8000000000000000 ≤ d.bits.toNat)

/-- The value of the bit that the format leaves out, above the bits of the fraction. -/
def hiddenBit : Nat := 0x10000000000000

/-- The eleven bits of the exponent. -/
def exponentBits (d : Double) : Nat := d.bits.toNat / hiddenBit % 0x800

/-- The fifty-two bits of the fraction. -/
def fractionBits (d : Double) : Nat := d.bits.toNat % hiddenBit

/-- Whether the number is neither an infinity nor a NaN. -/
def isFinite (d : Double) : Bool := decide (d.exponentBits ≠ 2047)

/-- Whether the number is a NaN: all exponent bits are set, and some bit of the fraction. -/
def isNaN (d : Double) : Bool := !d.isFinite && decide (d.fractionBits ≠ 0)

/-- The integer whose product with a power of two is the absolute value. -/
def significand (d : Double) : Nat :=
  if d.exponentBits = 0 then d.fractionBits else d.fractionBits + hiddenBit

/-- The exponent of that power of two. -/
def scale (d : Double) : Int := (max d.exponentBits 1 : Nat) - 1075

/-- Whether the next smaller absolute value is only half as far away as the next larger one. -/
def isPowerOfTwo (d : Double) : Bool := decide (d.fractionBits = 0 ∧ 1 < d.exponentBits)

example : (Double.mk 0x3ff8000000000000).significand = 3 * 2 ^ 51 := by decide

end Double

end Typelib
