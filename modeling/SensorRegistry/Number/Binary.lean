/-
Floating-point numbers of double and single precision as bit patterns, and the conversions between
them, each rounded once.
-/
import SensorRegistry.Number.Rounding

namespace SensorRegistry

/-- A number of double precision. -/
structure Double where
  bits : UInt64
  deriving DecidableEq, Repr

/-- A number of single precision. -/
structure Single where
  bits : UInt32
  deriving DecidableEq, Repr

namespace Double

/-- The number with a sign and a bit pattern without sign. -/
def ofPattern (negative : Bool) (pattern : Nat) : Double :=
  ⟨UInt64.ofNat (pattern + if negative then BinaryFormat.double.signBit else 0)⟩

def isNegative (x : Double) : Bool := BinaryFormat.double.signBit ≤ x.bits.toNat

/-- The bit pattern without the sign. -/
def pattern (x : Double) : Nat := x.bits.toNat % BinaryFormat.double.signBit

def isFinite (x : Double) : Bool := x.pattern < BinaryFormat.double.infinity

def isNaN (x : Double) : Bool := BinaryFormat.double.infinity < x.pattern

def infinity (negative : Bool) : Double := ofPattern negative BinaryFormat.double.infinity

/-- The quiet NaN without payload. -/
def nan : Double := ofPattern false (BinaryFormat.double.infinity + BinaryFormat.double.lead / 2)

/-- The number nearest to the ratio of two natural numbers, with a sign. -/
def ofRatio (negative : Bool) (num den : Nat) : Double :=
  ofPattern negative (BinaryFormat.double.round num den)

/-- The value of a finite number without its sign, as a ratio. -/
def ratio (x : Double) : Nat × Nat :=
  let (m, e) := BinaryFormat.double.decode x.pattern
  (m * Nat.pow 2 e, Nat.pow 2 BinaryFormat.double.scale)

/-- The product of two finite non-negative numbers. -/
def mul (x y : Double) : Double :=
  ofRatio false (x.ratio.1 * y.ratio.1) (x.ratio.2 * y.ratio.2)

/-- The quotient of two finite non-negative numbers, the second positive. -/
def div (x y : Double) : Double :=
  ofRatio false (x.ratio.1 * y.ratio.2) (x.ratio.2 * y.ratio.1)

end Double

namespace Single

/-- The number with a sign and a bit pattern without sign. -/
def ofPattern (negative : Bool) (pattern : Nat) : Single :=
  ⟨UInt32.ofNat (pattern + if negative then BinaryFormat.single.signBit else 0)⟩

def isNegative (x : Single) : Bool := BinaryFormat.single.signBit ≤ x.bits.toNat

/-- The bit pattern without the sign. -/
def pattern (x : Single) : Nat := x.bits.toNat % BinaryFormat.single.signBit

def isFinite (x : Single) : Bool := x.pattern < BinaryFormat.single.infinity

/-- The number nearest to an integer. -/
def ofInt (n : Int) : Single :=
  ofPattern (n < 0) (BinaryFormat.single.round n.natAbs 1)

/-- A finite number of double precision rounded to single precision; it overflows to infinity. -/
def ofDouble (x : Double) : Single :=
  ofPattern x.isNegative (BinaryFormat.single.round x.ratio.1 x.ratio.2)

/-- A finite number in double precision, which holds it exactly. -/
def toDouble (x : Single) : Double :=
  let (m, e) := BinaryFormat.single.decode x.pattern
  Double.ofRatio x.isNegative (m * Nat.pow 2 e) (Nat.pow 2 BinaryFormat.single.scale)

end Single

end SensorRegistry
