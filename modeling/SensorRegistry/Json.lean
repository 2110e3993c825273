/-
JSON values, as requests carry them and as responses are made of.

A number is an integer of 64 bits or else of double precision; one past the range of either is
infinite, which no field accepts. A string whose escapes leave half of a surrogate pair alone has no
text. Objects keep their members in order, repeated names included.
-/
import SensorRegistry.Number.Binary
import SensorRegistry.Text

namespace SensorRegistry

inductive Json
  | null
  | bool (b : Bool)
  | integer (n : Int)
  | real (x : Double)
  | string (s : Option Text)
  | array (items : List Json)
  | object (members : List (Option Text × Json))

namespace Json

/-- The string of a text. -/
def text (s : Text) : Json := .string (some s)

/-- The object with the given members. -/
def record (members : List (String × Json)) : Json :=
  .object (members.map fun (name, value) => (some name.toList, value))

/-- The number of single precision; one that is not finite has no form but `null`. -/
def single (x : Single) : Json := if x.isFinite then .real x.toDouble else .null

/-! ## Reading records -/

/-- The values of a record's fields, in the order of `names`. An object gives them by name, each
once, other names aside; an array gives exactly the values. -/
def fields? (names : List String) : Json → Option (List Json)
  | .object members =>
    if members.all (·.1.isSome) then
      names.mapM fun name =>
        match members.filter (·.1 == some name.toList) with
        | [(_, value)] => some value
        | _ => none
    else none
  | .array items => if items.length = names.length then some items else none
  | _ => none

def text? : Json → Option Text
  | .string s => s
  | _ => none

/-- The integer of the value, if it is one and lies between the bounds. -/
def integer? (least greatest : Int) : Json → Option Int
  | .integer n => if least ≤ n ∧ n ≤ greatest then some n else none
  | _ => none

/-- The number of the value in single precision. An integer is rounded once, another number from
double precision. -/
def single? : Json → Option Single
  | .integer n => some (.ofInt n)
  | .real x => if x.isFinite then some (.ofDouble x) else none
  | _ => none

end Json

end SensorRegistry
