/-
Reading a number of double precision from decimal text.

The accepted form is a sign, digits with at most one point among them and at least one digit, and
an exponent; or the words for infinity and not-a-number in any case. The value is rounded once.
-/
import SensorRegistry.Text
import SensorRegistry.Number.Integer
import SensorRegistry.Number.Binary

namespace SensorRegistry

/-- The number that a list of digits spells. -/
def digitsValue (digits : Text) : Nat := Nat.ofDigitChars 10 digits 0

namespace Double

/-- The number nearest to `digits * 10 ^ exponent`. A number past the range needs no power: with
`n` digits it lies below `10 ^ (exponent + n)`. -/
def ofDecimal (negative : Bool) (digits : Nat) (exponent : Int) : Double :=
  let magnitude := exponent + (Nat.toDigits 10 digits).length
  if digits = 0 ∨ magnitude < -330 then ofPattern negative 0
  else if magnitude > 330 then infinity negative
  else if exponent < 0 then ofRatio negative digits (Nat.pow 10 exponent.natAbs)
  else ofRatio negative (digits * Nat.pow 10 exponent.toNat) 1

/-- A sign in front of a text, and the rest. -/
def takeSign : Text → Bool × Text
  | '-' :: rest => (true, rest)
  | '+' :: rest => (false, rest)
  | rest => (false, rest)

/-- The exponent that a text after the digits spells, zero for an empty text. -/
def readExponent? : Text → Option Int
  | [] => some 0
  | c :: rest =>
    let (negative, digits) := takeSign rest
    if (c = 'e' ∨ c = 'E') ∧ digits ≠ [] ∧ digits.all Char.isDigit then
      some (if negative then -(digitsValue digits : Int) else digitsValue digits)
    else none

/-- Reads a number without sign. -/
def readUnsigned? (negative : Bool) (s : Text) : Option Double :=
  let whole := s.takeWhile Char.isDigit
  let rest := s.dropWhile Char.isDigit
  let (fraction, rest) := match rest with
    | '.' :: more => (more.takeWhile Char.isDigit, more.dropWhile Char.isDigit)
    | _ => ([], rest)
  if whole = [] ∧ fraction = [] then none
  else (readExponent? rest).map fun e =>
    ofDecimal negative (digitsValue (whole ++ fraction)) (e - fraction.length)

/-- Reads a number from the whole text. -/
def read? (s : Text) : Option Double :=
  let (negative, rest) := takeSign s
  let word := Text.lower rest
  if word = "inf".toList ∨ word = "infinity".toList then some (infinity negative)
  else if word = "nan".toList then some nan
  else readUnsigned? negative rest

end Double

end SensorRegistry
