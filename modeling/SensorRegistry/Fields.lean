/-
Named fields in the order in which they were first written, each name at most once.
-/
import SensorRegistry.Text

namespace SensorRegistry.Fields

/-- The fields with the value of one name replaced, or added at the end. -/
def put (name value : Text) : List (Text × Text) → List (Text × Text)
  | [] => [(name, value)]
  | (n, v) :: rest => if n = name then (n, value) :: rest else (n, v) :: put name value rest

end SensorRegistry.Fields
