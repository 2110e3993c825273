/-
Header fields as HTTP carries them: which names and values it can carry, and the fields that a list
of pairs gives a response.
-/
import SensorRegistry.Fields

namespace SensorRegistry.Header

/-- Whether the character can stand in a token, such as a header name. -/
def isTokenChar (c : Char) : Bool := c.isAlphanum || "!#$%&'*+-.^_`|~".toList.contains c

/-- Whether the text is a header name. -/
def isName (s : Text) : Bool := !s.isEmpty && s.all isTokenChar

/-- Whether the character can stand in a header value: tab, or anything that is no ASCII control
character. -/
def isValueChar (c : Char) : Bool := c == '\t' || (0x20 ≤ c.toNat && c.toNat != 0x7F)

/-- Whether the character is visible ASCII, a space or a tab. -/
def isVisible (c : Char) : Bool := isValueChar c && c.toNat < 0x80

/-- Whether HTTP can carry a name and a value. -/
def isCarried (field : Text × Text) : Bool := isName field.1 && field.2.all isValueChar

/-- The fields that a response carries: names in lower case, each once with its last value. Pairs
that HTTP cannot carry are left out. -/
def fields (pairs : List (Text × Text)) : List (Text × Text) :=
  (pairs.filter isCarried).foldl (fun fs (name, value) => Fields.put (Text.lower name) value fs) []

/-- The value of the first field with the name, ASCII case ignored. -/
def first? (name : Text) (pairs : List (Text × Text)) : Option Text :=
  (pairs.find? fun pair => Text.sameIgnoringCase pair.1 name).map (·.2)

end SensorRegistry.Header
