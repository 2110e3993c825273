/-
Numeric network addresses: reading IPv4 and IPv6 text and writing the canonical form.

An octet has no leading zero and a group at most four digits. In IPv6 one `::` stands for at least
one zero group, and the last two groups may be written as IPv4.
-/
import SensorRegistry.Text.Percent
import SensorRegistry.Number.Decimal

namespace SensorRegistry

/-- An address: four octets or eight groups of 16 bits. -/
inductive Address
  | v4 (octets : List Nat)
  | v6 (groups : List Nat)
  deriving DecidableEq, Repr

namespace Address

/-! ## Reading -/

/-- The text behind a character, if it starts with it. -/
def expect (c : Char) : Text → Option Text
  | [] => none
  | d :: rest => if d = c then some rest else none

/-- A decimal octet at the start of a text. -/
def readOctet (s : Text) : Option (Nat × Text) :=
  let digits := s.takeWhile Char.isDigit
  let n := digitsValue digits
  if digits.isEmpty ∨ 3 < digits.length ∨ (digits.head? = some '0' ∧ digits ≠ ['0']) ∨ 255 < n then
    none
  else some (n, s.dropWhile Char.isDigit)

/-- Four octets separated by points. -/
def readOctets (s : Text) : Option (List Nat × Text) := do
  let (a, s) ← readOctet s
  let (b, s) ← readOctet (← expect '.' s)
  let (c, s) ← readOctet (← expect '.' s)
  let (d, s) ← readOctet (← expect '.' s)
  return ([a, b, c, d], s)

/-- A hexadecimal group at the start of a text. -/
def readGroup (s : Text) : Option (Nat × Text) :=
  let isHex := fun c => (Text.hexValue? c).isSome
  let digits := s.takeWhile isHex
  if digits.isEmpty ∨ 4 < digits.length then none
  else some (digits.foldl (fun n c => 16 * n + (Text.hexValue? c).getD 0) 0, s.dropWhile isHex)

/-- Four octets as two groups. -/
def pairGroups : List Nat → List Nat
  | [a, b, c, d] => [256 * a + b, 256 * c + d]
  | _ => []

/-- At most `room` groups separated by colons, whether they end in four octets, and what follows.
All but the first need a colon in front. -/
def readGroups (first : Bool) : Nat → Text → List Nat × Bool × Text
  | 0, s => ([], false, s)
  | room + 1, s =>
    let item := if first then some s else expect ':' s
    match if room = 0 then none else item.bind readOctets with
    | some (octets, rest) => (pairGroups octets, true, rest)
    | none =>
      match item.bind readGroup with
      | none => ([], false, s)
      | some (group, rest) =>
        let (groups, endsInOctets, rest) := readGroups false room rest
        (group :: groups, endsInOctets, rest)

/-- Eight groups, or fewer around one `::`. -/
def readV6 (s : Text) : Option (Address × Text) :=
  let (head, endsInOctets, rest) := readGroups true 8 s
  if head.length = 8 then some (.v6 head, rest)
  else if endsInOctets then none
  else do
    let rest ← expect ':' (← expect ':' rest)
    let (tail, _, rest) := readGroups true (7 - head.length) rest
    return (.v6 (head ++ List.replicate (8 - head.length - tail.length) 0 ++ tail), rest)

/-- Reads an address from the whole text. -/
def read? (s : Text) : Option Address :=
  match readOctets s with
  | some (octets, rest) => if rest.isEmpty then some (.v4 octets) else none
  | none =>
    match readV6 s with
    | some (address, rest) => if rest.isEmpty then some address else none
    | none => none

/-! ## Writing -/

def writeOctets (octets : List Nat) : Text := Text.join "." (octets.map Text.ofNat)

def writeGroups (groups : List Nat) : Text := Text.join ":" (groups.map (Nat.toDigits 16))

/-- The start and the length of the first longest run of zero groups. -/
def zeroRun (groups : List Nat) : Nat × Nat :=
  let runs := (List.range groups.length).map fun i =>
    (i, ((groups.drop i).takeWhile (· == 0)).length)
  runs.foldl (fun best run => if best.2 < run.2 then run else best) (0, 0)

/-- The canonical form: an embedded IPv4 address in its own form, else the first longest run of two
or more zero groups as `::`. -/
def write : Address → Text
  | .v4 octets => writeOctets octets
  | .v6 groups =>
    match groups with
    | [0, 0, 0, 0, 0, 0xFFFF, g, h] =>
      "::ffff:".toList ++ writeOctets [g / 256, g % 256, h / 256, h % 256]
    | _ =>
      let (start, length) := zeroRun groups
      if 1 < length then
        writeGroups (groups.take start) ++ "::".toList ++ writeGroups (groups.drop (start + length))
      else writeGroups groups

/-- The address with a port; IPv6 stands in brackets. -/
def writeSocket (address : Address) (port : Nat) : Text :=
  match address with
  | .v4 _ => address.write ++ ':' :: Text.ofNat port
  | .v6 _ => '[' :: address.write ++ "]:".toList ++ Text.ofNat port

end Address

end SensorRegistry
