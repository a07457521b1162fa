/-!
# Numbers as bit patterns

A document's numbers are never computed with, so a `Number` is its 64-bit IEEE 754 pattern and
nothing more. How it is written in decimal digits is left to a form (`NumberForm`).
-/

namespace DocShape

/-- A double-precision number, given by its bits. -/
structure Number where
  /-- Sign, exponent and fraction, from the highest bit down. -/
  bits : UInt64
  deriving DecidableEq, Repr

namespace Number

/-- The eleven bits of the exponent. -/
def exponent (x : Number) : UInt64 := (x.bits >>> 52) &&& 0x7FF

/-- The fifty-two bits of the fraction. -/
def fraction (x : Number) : UInt64 := x.bits &&& 0xFFFFFFFFFFFFF

/-- Neither an infinity nor a NaN: the exponent is not all ones. -/
def isFinite (x : Number) : Bool := x.exponent != 0x7FF

/-- Not a number: the exponent is all ones and the fraction is not zero. -/
def isNaN (x : Number) : Bool := x.exponent == 0x7FF && x.fraction != 0

/-- A zero of either sign. -/
def isZero (x : Number) : Bool := x.exponent == 0 && x.fraction == 0

/-- Equality as numbers: a NaN equals nothing, and the two zeros are equal. -/
def equals (x y : Number) : Bool :=
  !x.isNaN && (x.bits == y.bits || (x.isZero && y.isZero))

end Number

end DocShape
