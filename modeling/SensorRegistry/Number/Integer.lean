/-
Reading integers of a bounded range from decimal text, with the fault that stops the reading.
-/
import SensorRegistry.Text

namespace SensorRegistry

/-- The integers from `least` to `greatest`. -/
structure IntegerRange where
  least : Int
  greatest : Int
  deriving DecidableEq

/-- Why a text is no integer of a range. -/
inductive IntegerFault
  | empty
  | invalidDigit
  | tooLarge
  | tooSmall
  deriving DecidableEq, Repr

def IntegerFault.message : IntegerFault → Text
  | .empty => "cannot parse integer from empty string".toList
  | .invalidDigit => "invalid digit found in string".toList
  | .tooLarge => "number too large to fit in target type".toList
  | .tooSmall => "number too small to fit in target type".toList

/-- The value of a decimal digit. -/
def digitValue? (c : Char) : Option Nat :=
  if c.isDigit then some (c.toNat - '0'.toNat) else none

namespace IntegerRange

def int64 : IntegerRange := ⟨-9223372036854775808, 9223372036854775807⟩
def int32 : IntegerRange := ⟨-2147483648, 2147483647⟩
def word64 : IntegerRange := ⟨0, 18446744073709551615⟩
def word32 : IntegerRange := ⟨0, 4294967295⟩
def word16 : IntegerRange := ⟨0, 65535⟩

/-- Whether the integer lies in the range. -/
def contains (r : IntegerRange) (n : Int) : Bool := r.least ≤ n && n ≤ r.greatest

/-- Reads digits after those of value `value`. The first character that is no digit, or that takes
the value past `bound`, decides the fault. -/
def readDigits (bound : Nat) (overflow : IntegerFault) (value : Nat) :
    Text → Except IntegerFault Nat
  | [] => .ok value
  | c :: rest =>
    match digitValue? c with
    | none => .error .invalidDigit
    | some d =>
      if value * 10 + d ≤ bound then readDigits bound overflow (value * 10 + d) rest
      else .error overflow

/-- Reads an integer: digits after an optional `+`, or after `-` where the range has negative
numbers. -/
def read (r : IntegerRange) : Text → Except IntegerFault Int
  | [] => .error .empty
  | ['+'] => .error .invalidDigit
  | ['-'] => .error .invalidDigit
  | c :: rest =>
    if c = '+' then (readDigits r.greatest.toNat .tooLarge 0 rest).map Int.ofNat
    else if c = '-' ∧ r.least < 0 then
      (readDigits (-r.least).toNat .tooSmall 0 rest).map fun n => -Int.ofNat n
    else (readDigits r.greatest.toNat .tooLarge 0 (c :: rest)).map Int.ofNat

end IntegerRange

end SensorRegistry
