/-
The bytes of a text and the texts of bytes.

Decoding first cuts the bytes into characters and faults: a fault is a longest start of a
character that cannot be completed, or a byte that starts none. The strict reading accepts bytes
without faults; the forgiving one writes U+FFFD for each.
-/
import SensorRegistry.Text

namespace SensorRegistry.Text

/-- The UTF-8 bytes of a text. -/
def bytes (s : Text) : List UInt8 := s.flatMap String.utf8EncodeChar

namespace Utf8

/-- What a lead byte announces: how many bytes follow, its own bits, and the range of the next. -/
structure Lead where
  more : Nat
  bits : Nat
  low : Nat
  high : Nat

/-- The lead byte of a character of more than one byte. The range of the second byte leaves out
overlong forms, surrogates and numbers past U+10FFFF. -/
def lead? (b : Nat) : Option Lead :=
  if b < 0xC2 then none
  else if b < 0xE0 then some ⟨1, b - 0xC0, 0x80, 0xBF⟩
  else if b < 0xF0 then
    some ⟨2, b - 0xE0, if b = 0xE0 then 0xA0 else 0x80, if b = 0xED then 0x9F else 0xBF⟩
  else if b < 0xF5 then
    some ⟨3, b - 0xF0, if b = 0xF0 then 0x90 else 0x80, if b = 0xF4 then 0x8F else 0xBF⟩
  else none

/-- What a byte at the start of a character finishes, and the character it leaves unfinished. -/
def start (b : UInt8) : List (Option Char) × Option Lead :=
  if b.toNat < 0x80 then ([some (Char.ofNat b.toNat)], none)
  else match lead? b.toNat with
    | some p => ([], some p)
    | none => ([none], none)

/-- What a byte finishes after an unfinished character, and what it leaves unfinished. -/
def step : Option Lead → UInt8 → List (Option Char) × Option Lead
  | none, b => start b
  | some p, b =>
    if p.low ≤ b.toNat ∧ b.toNat ≤ p.high then
      let bits := p.bits * 64 + (b.toNat - 0x80)
      if p.more ≤ 1 then ([some (Char.ofNat bits)], none)
      else ([], some ⟨p.more - 1, bits, 0x80, 0xBF⟩)
    else (none :: (start b).1, (start b).2)

/-- The bytes cut into characters and faults, after the unfinished character `pending`. -/
def units (pending : Option Lead) : List UInt8 → List (Option Char)
  | [] => if pending.isSome then [none] else []
  | b :: rest => (step pending b).1 ++ units (step pending b).2 rest

/-- The text whose UTF-8 form the bytes are, if there is one. -/
def decode? (bs : List UInt8) : Option Text := (units none bs).mapM id

/-- The text of the bytes, with U+FFFD in place of each fault. -/
def decode (bs : List UInt8) : Text := (units none bs).map (·.getD '\uFFFD')

end Utf8

end SensorRegistry.Text
