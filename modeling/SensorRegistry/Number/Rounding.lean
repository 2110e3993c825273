/-
Rounding a ratio of natural numbers to a binary format: to the nearest value, a tie to the even
significand, past the greatest value to infinity.

A non-negative value is its bit pattern as a natural number, so that the order of the patterns is
the order of the values and a carry out of the significand enters the exponent by itself.
-/

namespace SensorRegistry

/-- A binary interchange format: bits of the significand, the leading one included, and bits of the
exponent. -/
structure BinaryFormat where
  precision : Nat
  exponentBits : Nat

namespace BinaryFormat

def double : BinaryFormat := ⟨53, 11⟩
def single : BinaryFormat := ⟨24, 8⟩

/-- The number of halvings that lead from one to the smallest positive value. -/
def scale (f : BinaryFormat) : Nat := Nat.pow 2 (f.exponentBits - 1) + f.precision - 3

/-- The leading bit of a significand, which is the step of the exponent in a bit pattern. -/
def lead (f : BinaryFormat) : Nat := Nat.pow 2 (f.precision - 1)

/-- The bit that states the sign. -/
def signBit (f : BinaryFormat) : Nat := Nat.pow 2 (f.precision + f.exponentBits - 1)

/-- The bit pattern of infinity. -/
def infinity (f : BinaryFormat) : Nat := (Nat.pow 2 f.exponentBits - 1) * f.lead

/-- The significand and the binary exponent above the smallest positive value. -/
def decode (f : BinaryFormat) (pattern : Nat) : Nat × Nat :=
  if pattern < f.lead then (pattern, 0)
  else (pattern % f.lead + f.lead, pattern / f.lead - 1)

/-- The integer nearest to `num / den`, the even one on a tie. -/
def nearestEven (num den : Nat) : Nat :=
  let q := num / den
  let r := num % den
  if 2 * r < den then q else if den < 2 * r then q + 1 else q + q % 2

/-- The greatest `k` with `den * 2 ^ k ≤ num`, zero if there is none. -/
def binaryOrder (num den : Nat) : Nat :=
  let k := num.log2 - den.log2
  if den * Nat.pow 2 k ≤ num then k else k - 1

/-- The bit pattern of the value nearest to `num / den`. -/
def round (f : BinaryFormat) (num den : Nat) : Nat :=
  let scaled := num * Nat.pow 2 f.scale
  let k := binaryOrder scaled den - (f.precision - 1)
  min (nearestEven scaled (den * Nat.pow 2 k) + k * f.lead) f.infinity

end BinaryFormat

end SensorRegistry
