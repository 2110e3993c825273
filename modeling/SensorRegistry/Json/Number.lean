/-
The value of a JSON number.

A numeral without fraction and exponent is an integer if it fits 64 bits; minus zero does not count
as one. Any other numeral is rounded twice: its leading digits, as many as fit 64 bits, to double
precision, and then the product or quotient with a power of ten.
-/
import SensorRegistry.Json
import SensorRegistry.Number.Integer

namespace SensorRegistry.Json

/-- A numeral as it is written: sign, digits before and after the point, exponent. -/
structure Numeral where
  negative : Bool
  whole : Text
  fraction : Option Text
  exponent : Option Int

namespace Numeral

/-- Appends digits to a value while it fits 64 bits, and gives the digits that are left. -/
def appendDigits (value : Nat) : Text → Nat × Text
  | [] => (value, [])
  | c :: rest =>
    let longer := value * 10 + (digitValue? c).getD 0
    if IntegerRange.word64.contains longer then appendDigits longer rest else (value, c :: rest)

/-- A non-negative number times a power of ten. Beyond `10 ^ 308` the power is applied in steps,
each rounded; a positive number is then too large, or vanishes after two steps. -/
def scale (x : Double) (exponent : Int) : Nat → Double
  | 0 => .ofPattern false 0
  | steps + 1 =>
    if exponent.natAbs ≤ 308 then
      let power := Double.ofRatio false (Nat.pow 10 exponent.natAbs) 1
      if 0 ≤ exponent then x.mul power else x.div power
    else if x.pattern = 0 then x
    else if 0 ≤ exponent then .infinity false
    else scale (x.div (.ofRatio false (Nat.pow 10 308) 1)) (exponent + 308) steps

/-- The numeral rounded to double precision. -/
def toDouble (n : Numeral) : Double :=
  let (whole, dropped) := appendDigits 0 n.whole
  let fraction := n.fraction.getD []
  let (significand, ignored) := appendDigits whole fraction
  let exponent : Int :=
    n.exponent.getD 0 + dropped.length - (fraction.length - ignored.length : Nat)
  .ofPattern n.negative (scale (.ofRatio false significand 1) exponent 3).pattern

/-- The integer of the numeral without its sign. -/
def magnitude (n : Numeral) : Nat := n.whole.foldl (fun v c => v * 10 + (digitValue? c).getD 0) 0

/-- The value of the numeral. -/
def value (n : Numeral) : Json :=
  if n.fraction.isSome ∨ n.exponent.isSome then .real n.toDouble
  else if n.negative then
    if 0 < n.magnitude ∧ IntegerRange.int64.contains (-(n.magnitude : Int)) then
      .integer (-(n.magnitude : Int))
    else .real n.toDouble
  else if IntegerRange.word64.contains n.magnitude then .integer n.magnitude
  else .real n.toDouble

end Numeral

end SensorRegistry.Json
