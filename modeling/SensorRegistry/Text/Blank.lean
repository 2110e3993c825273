/-
White space in the sense of Unicode, and what is done with it: trimming the ends of a text and
collapsing every run to one space.
-/
import SensorRegistry.Text

namespace SensorRegistry.Text

/-- The code points with the property White_Space, as ranges. -/
def blankRanges : List (Nat × Nat) :=
  [(0x09, 0x0D), (0x20, 0x20), (0x85, 0x85), (0xA0, 0xA0), (0x1680, 0x1680), (0x2000, 0x200A),
    (0x2028, 0x2029), (0x202F, 0x202F), (0x205F, 0x205F), (0x3000, 0x3000)]

/-- Whether the character is white space. -/
def isBlank (c : Char) : Bool :=
  blankRanges.any fun (first, last) => first ≤ c.toNat && c.toNat ≤ last

/-- The text without the white space at its start. -/
def trimStart (s : Text) : Text := s.dropWhile isBlank

/-- The text without the white space at its end. -/
def trimEnd (s : Text) : Text := (trimStart s.reverse).reverse

/-- The text without the white space at its ends. -/
def trim (s : Text) : Text := trimEnd (trimStart s)

/-- The maximal runs of characters that are not white space. -/
def words (s : Text) : List Text := (s.splitOnP isBlank).filter (! ·.isEmpty)

/-- Every run of white space collapsed to one space, none at the ends. -/
def normalize (s : Text) : Text := join " " (words s)

end SensorRegistry.Text
