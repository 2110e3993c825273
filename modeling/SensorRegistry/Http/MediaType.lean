/-
Media types: `type/subtype+suffix` and parameters behind semicolons.

Parameters are checked and forgotten. A parameter may have an empty value but not an empty quoted
one, and blanks stand only in front of a parameter and behind a quoted value.
-/
import SensorRegistry.Http.Header

namespace SensorRegistry

/-- A media type without its parameters. -/
structure MediaType where
  type : Text
  subtype : Text
  suffix : Option Text
  deriving DecidableEq

namespace MediaType

/-! ## Parameters -/

/-- A place in a list of parameters; the flag says whether the item there has begun. -/
inductive Place
  | name (begun : Bool)
  | value (begun : Bool)
  | quoted (begun : Bool)
  | closed
  deriving DecidableEq

/-- Whether the character can stand between quotes. -/
def isQuotable (c : Char) : Bool := 0x20 ≤ c.toNat && c.toNat != 0x7F

/-- The place behind a character, if the character may stand there. -/
def step (place : Place) (c : Char) : Option Place :=
  match place with
  | .name begun =>
    if c = ' ' ∧ begun = false then some (.name false)
    else if c = '=' ∧ begun then some (.value false)
    else if Header.isTokenChar c then some (.name true)
    else none
  | .value begun =>
    if c = '"' ∧ begun = false then some (.quoted false)
    else if c = ';' ∧ begun then some (.name false)
    else if Header.isTokenChar c then some (.value true)
    else none
  | .quoted begun =>
    if c = '"' ∧ begun then some .closed
    else if isQuotable c then some (.quoted true)
    else none
  | .closed =>
    if c = ';' then some (.name false) else if c = ' ' then some .closed else none

/-- Whether a list of parameters may end at the place. -/
def isEnd : Place → Bool
  | .name begun => !begun
  | .value _ => true
  | .quoted _ => false
  | .closed => true

/-- Whether the text behind the first semicolon is a list of parameters. -/
def isParameters (s : Text) : Bool := (s.foldlM step (.name false)).any isEnd

/-! ## Types -/

/-- The subtype and the suffix around the last `+` that is not the first character. -/
def splitSuffix (s : Text) : Text × Option Text :=
  let suffix := (s.reverse.takeWhile (· != '+')).reverse
  let stem := s.take (s.length - suffix.length)
  if stem.length ≤ 1 then (s, none) else (stem.dropLast, some suffix)

/-- Whether a media type may end where the text begins, with or without parameters. -/
def isTail : Text → Bool
  | [] => true
  | c :: parameters => c == ';' && isParameters parameters

/-- Reads a media type. -/
def read? (s : Text) : Option MediaType :=
  match Text.cut '/' s with
  | none => none
  | some (type, rest) =>
    let subtype := rest.takeWhile Header.isTokenChar
    if Header.isName type ∧ Header.isName subtype
        ∧ isTail (rest.dropWhile Header.isTokenChar) then
      some ⟨type, (splitSuffix subtype).1, (splitSuffix subtype).2⟩
    else none

/-- Whether the media type is JSON, or a format with the suffix of JSON. -/
def isJson (m : MediaType) : Bool :=
  let json := "json".toList
  Text.sameIgnoringCase m.type "application".toList
    && (Text.sameIgnoringCase m.subtype json || m.suffix.any (Text.sameIgnoringCase · json))

end MediaType

end SensorRegistry
