/-
Percent escapes: `%` and two hexadecimal digits stand for a byte.

Decoding to bytes accepts every text, since a `%` without two digits stands for itself; whether all
escapes are well formed is a separate question.
-/
import SensorRegistry.Text
import SensorRegistry.Text.Utf8

namespace SensorRegistry.Text

/-- The value of a hexadecimal digit of either case. -/
def hexValue? (c : Char) : Option Nat :=
  if '0' ≤ c ∧ c ≤ '9' then some (c.toNat - '0'.toNat)
  else if 'a' ≤ c ∧ c ≤ 'f' then some (c.toNat - 'a'.toNat + 10)
  else if 'A' ≤ c ∧ c ≤ 'F' then some (c.toNat - 'A'.toNat + 10)
  else none

/-- The byte that two hexadecimal digits spell. -/
def hexByte? (high low : Char) : Option UInt8 := do
  return UInt8.ofNat (16 * (← hexValue? high) + (← hexValue? low))

/-- The bytes of a text, an escape giving the byte that it spells. -/
def percentBytes : Text → List UInt8
  | '%' :: high :: low :: rest =>
    match hexByte? high low with
    | some b => b :: percentBytes rest
    | none => String.utf8EncodeChar '%' ++ percentBytes (high :: low :: rest)
  | c :: rest => String.utf8EncodeChar c ++ percentBytes rest
  | [] => []

/-- Whether two hexadecimal digits follow every `%`. -/
def escapesClosed : Text → Bool
  | '%' :: high :: low :: rest => (hexByte? high low).isSome && escapesClosed rest
  | '%' :: _ => false
  | _ :: rest => escapesClosed rest
  | [] => true

/-- Each `+` becomes a space, as query strings write it. -/
def plusToSpace (s : Text) : Text := s.map fun c => if c = '+' then ' ' else c

end SensorRegistry.Text
