/-
The page of a list request: offset and limit as the request resolves them, and the total number of
rows once it is known. A total of zero means unknown.
-/
import SensorRegistry.Json
import SensorRegistry.Number.Integer

namespace SensorRegistry

/-- The position of a page. -/
structure Page where
  offset : Int
  limit : Int
  total : Int
  deriving DecidableEq, Repr

namespace Page

/-- A page whose total is not known yet. -/
def unknownTotal (offset limit : Int) : Page := ⟨offset, limit, 0⟩

def withTotal (p : Page) (total : Int) : Page := { p with total := total }

/-- The page of a JSON record with the three numbers. -/
def ofJson? (j : Json) : Option Page := do
  let number := Json.integer? IntegerRange.int64.least IntegerRange.int64.greatest
  match ← j.fields? ["offset", "limit", "total"] with
  | [offset, limit, total] => return ⟨← number offset, ← number limit, ← number total⟩
  | _ => none

end Page

end SensorRegistry
