/-
The textual forms of a UUID: 32 hexadecimal digits, plain or hyphenated, the latter also in braces
or as a URN.
-/
import SensorRegistry.Text.Percent

namespace SensorRegistry.Uuid

def isHex (c : Char) : Bool := (Text.hexValue? c).isSome

/-- The plain form: 32 digits in a row. -/
def isSimple (s : Text) : Bool := s.length == 32 && s.all isHex

/-- The hyphenated form: groups of 8, 4, 4, 4 and 12 digits with hyphens between them. -/
def isHyphenated (s : Text) : Bool :=
  let groups := s.splitOn '-'
  groups.map List.length == [8, 4, 4, 4, 12] && groups.all (·.all isHex)

/-- A hyphenated form in braces. -/
def isBraced (s : Text) : Bool :=
  match s with
  | '{' :: rest => rest.getLast? == some '}' && isHyphenated rest.dropLast
  | _ => false

/-- A hyphenated form as a URN. -/
def isUrn (s : Text) : Bool := ("urn:uuid:".toList.isPrefixOf? s).any isHyphenated

/-- Whether the text is a UUID in any form. -/
def isUuid (s : Text) : Bool := isSimple s || isHyphenated s || isBraced s || isUrn s

end SensorRegistry.Uuid
