/-
Reading JSON text: one value, with what follows it, or a whole text.

The grammar is that of the standard and nothing more: no comments, no trailing commas, no leading
zeros, no control characters in strings.
-/
import SensorRegistry.Json.Number
import SensorRegistry.Number.Decimal
import SensorRegistry.Text.Percent

namespace SensorRegistry.Json

/-- The text behind blanks. -/
def skipBlanks (s : Text) : Text :=
  s.dropWhile fun c => c == ' ' || c == '\n' || c == '\t' || c == '\r'

/-! ## Strings -/

/-- A part of a string: a character, or half of a surrogate pair. -/
inductive StringPart
  | char (c : Char)
  | half (unit : Nat)

/-- The character that a backslash and a letter stand for. -/
def escaped? : Char → Option Char
  | '"' => some '"'
  | '\\' => some '\\'
  | '/' => some '/'
  | 'b' => some '\x08'
  | 'f' => some '\x0c'
  | 'n' => some '\n'
  | 'r' => some '\r'
  | 't' => some '\t'
  | _ => none

/-- The part that four hexadecimal digits stand for. -/
def unitPart? (a b c d : Char) : Option StringPart := do
  let high := 16 * (← Text.hexValue? a) + (← Text.hexValue? b)
  let unit := 256 * high + 16 * (← Text.hexValue? c) + (← Text.hexValue? d)
  return if 0xD800 ≤ unit ∧ unit < 0xE000 then .half unit else .char (Char.ofNat unit)

/-- The parts of a string up to its closing quote, and the text behind it. -/
def readParts : Text → Option (List StringPart × Text)
  | [] => none
  | '"' :: rest => some ([], rest)
  | '\\' :: 'u' :: a :: b :: c :: d :: rest => do
    let part ← unitPart? a b c d
    let (parts, after) ← readParts rest
    return (part :: parts, after)
  | '\\' :: letter :: rest => do
    let c ← escaped? letter
    let (parts, after) ← readParts rest
    return (.char c :: parts, after)
  | c :: rest =>
    if c.toNat < 0x20 then none
    else do
      let (parts, after) ← readParts rest
      return (.char c :: parts, after)

/-- The text of the parts, unless half of a surrogate pair stands alone. -/
def joinParts? : List StringPart → Option Text
  | [] => some []
  | .char c :: rest => (joinParts? rest).map (c :: ·)
  | .half high :: .half low :: rest =>
    if high < 0xDC00 ∧ 0xDC00 ≤ low then
      let code := 0x10000 + (high - 0xD800) * 1024 + (low - 0xDC00)
      (joinParts? rest).map (Char.ofNat code :: ·)
    else none
  | .half _ :: _ => none

/-- The text of a string behind its opening quote, and what follows it. -/
def readString (s : Text) : Option (Option Text × Text) :=
  (readParts s).map fun (parts, after) => (joinParts? parts, after)

/-! ## Numbers -/

/-- Digits, at least one, and what follows them. -/
def readDigits (s : Text) : Option (Text × Text) :=
  let digits := s.takeWhile Char.isDigit
  if digits.isEmpty then none else some (digits, s.dropWhile Char.isDigit)

/-- Digits without a leading zero, and what follows them. -/
def readWhole (s : Text) : Option (Text × Text) := do
  let (digits, rest) ← readDigits s
  if digits.head? = some '0' ∧ digits ≠ ['0'] then none else return (digits, rest)

/-- The digits behind a point, if there is one. -/
def readFraction : Text → Option (Option Text × Text)
  | '.' :: rest => (readDigits rest).map fun (digits, after) => (some digits, after)
  | s => some (none, s)

/-- The exponent, if there is one. -/
def readExponent : Text → Option (Option Int × Text)
  | [] => some (none, [])
  | c :: rest =>
    if c = 'e' ∨ c = 'E' then
      let (negative, unsigned) := Double.takeSign rest
      (readDigits unsigned).map fun (digits, after) =>
        let n : Int := digitsValue digits
        (some (if negative then -n else n), after)
    else some (none, c :: rest)

/-- A number, and what follows it. -/
def readNumber (s : Text) : Option (Json × Text) := do
  let (negative, unsigned) := match s with
    | '-' :: rest => (true, rest)
    | _ => (false, s)
  let (whole, rest) ← readWhole unsigned
  let (fraction, rest) ← readFraction rest
  let (exponent, rest) ← readExponent rest
  return (Numeral.value ⟨negative, whole, fraction, exponent⟩, rest)

/-! ## Values -/

/-- A literal name at the start of a text. -/
def readName (name : String) (value : Json) (s : Text) : Option (Json × Text) :=
  (name.toList.isPrefixOf? s).map fun rest => (value, rest)

mutual

/-- A value at the start of a text, and what follows it. -/
def readValue : Nat → Text → Option (Json × Text)
  | 0, _ => none
  | fuel + 1, s =>
    match skipBlanks s with
    | '{' :: rest =>
      match skipBlanks rest with
      | '}' :: after => some (.object [], after)
      | rest => (readMembers fuel rest).map fun (members, after) => (.object members, after)
    | '[' :: rest =>
      match skipBlanks rest with
      | ']' :: after => some (.array [], after)
      | rest => (readItems fuel rest).map fun (items, after) => (.array items, after)
    | '"' :: rest => (readString rest).map fun (s, after) => (.string s, after)
    | 't' :: rest => readName "rue" (.bool true) rest
    | 'f' :: rest => readName "alse" (.bool false) rest
    | 'n' :: rest => readName "ull" .null rest
    | rest => readNumber rest

/-- The items of an array up to its end, at least one. -/
def readItems : Nat → Text → Option (List Json × Text)
  | 0, _ => none
  | fuel + 1, s => do
    let (item, rest) ← readValue fuel s
    match skipBlanks rest with
    | ',' :: rest =>
      let (items, after) ← readItems fuel rest
      return (item :: items, after)
    | ']' :: after => return ([item], after)
    | _ => none

/-- The members of an object up to its end, at least one. -/
def readMembers : Nat → Text → Option (List (Option Text × Json) × Text)
  | 0, _ => none
  | fuel + 1, s =>
    match skipBlanks s with
    | '"' :: rest => do
      let (name, rest) ← readString rest
      match skipBlanks rest with
      | ':' :: rest =>
        let (value, rest) ← readValue fuel rest
        match skipBlanks rest with
        | ',' :: rest =>
          let (members, after) ← readMembers fuel rest
          return ((name, value) :: members, after)
        | '}' :: after => return ([(name, value)], after)
        | _ => none
      | _ => none
    | _ => none

end

/-- The value at the start of a text, whatever follows it. Two steps for each character are
enough, since every other step consumes one. -/
def readFirst? (s : Text) : Option (Json × Text) := readValue (2 * s.length + 2) s

/-- The value of a whole text, which may end in blanks. -/
def read? (s : Text) : Option Json :=
  match readFirst? s with
  | some (value, rest) => if (skipBlanks rest).isEmpty then some value else none
  | none => none

end SensorRegistry.Json
