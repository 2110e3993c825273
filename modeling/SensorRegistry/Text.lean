/-
Texts as lists of characters: size in bytes, joining, ASCII case, decimal numerals.

Every function of the library that reads or builds text works on `Text`, so that it recurses on the
characters themselves. Byte counts are measures on it and appear only where positions are shown.
-/

namespace SensorRegistry

/-- Unicode text, one character per element. -/
abbrev Text := List Char

namespace Text

/-- The number of bytes of the text in UTF-8. -/
def byteSize : Text → Nat
  | [] => 0
  | c :: rest => c.utf8Size + byteSize rest

/-- The parts in order with `separator` between neighbours. -/
def join (separator : String) (parts : List Text) : Text :=
  separator.toList.intercalate parts

/-- The decimal numeral of a natural number, without leading zeros. -/
def ofNat (n : Nat) : Text := Nat.toDigits 10 n

/-- The decimal numeral of an integer, with `-` in front of a negative one. -/
def ofInt : Int → Text
  | .ofNat n => ofNat n
  | .negSucc n => '-' :: ofNat (n + 1)

/-! ## ASCII case -/

/-- Letters `A` to `Z` become `a` to `z`; every other character stays. -/
def lower (s : Text) : Text := s.map Char.toLower

/-- Equality up to the case of ASCII letters. -/
def sameIgnoringCase (s t : Text) : Bool := lower s == lower t

/-! ## Cutting -/

/-- The text before and after the first `c`, if there is one. -/
def cut (c : Char) : Text → Option (Text × Text)
  | [] => none
  | d :: rest =>
    if d = c then some ([], rest)
    else (cut c rest).map fun (before, after) => (d :: before, after)

/-! ## Order -/

/-- Whether the two texts are in ascending order, by their code points. -/
def ascending : Text → Text → Bool
  | [], _ => true
  | _ :: _, [] => false
  | c :: s, d :: t => decide (c.toNat < d.toNat) || (c == d && ascending s t)

/-- The texts in ascending order, each once. -/
def sorted (names : List Text) : List Text := names.eraseDups.mergeSort ascending

end Text

end SensorRegistry
