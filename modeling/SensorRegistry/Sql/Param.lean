/-
Bound parameters, and the parameter that a filter's value becomes.

Client values reach a statement in this form only. Strings are bound as they are, split at commas
for membership, and with their wildcards escaped for matching; other types are read from the text.
-/
import SensorRegistry.Number.Decimal
import SensorRegistry.Filter.Group

namespace SensorRegistry

/-- A value bound to a placeholder. -/
inductive Param
  | int (n : Int)
  | float (x : Double)
  | bool (b : Bool)
  | text (s : Text)
  | textArray (items : List Text)
  deriving DecidableEq

namespace Param

/-- The pattern that matches exactly the text: wildcards and the escape character are escaped. -/
def escapeLike (s : Text) : Text :=
  s.flatMap fun c => if c = '\\' ∨ c = '%' ∨ c = '_' then ['\\', c] else [c]

/-- The items of a comma-separated list. -/
def splitList (s : Text) : List Text := s.splitOn ','

/-- The spellings of true and of false. -/
def readBool? (s : Text) : Option Bool :=
  if ["1", "t", "T", "true", "TRUE", "True"].any (·.toList == s) then some true
  else if ["0", "f", "F", "false", "FALSE", "False"].any (·.toList == s) then some false
  else none

end Param

/-- The parameter bound for the filter, or the problem that its value does not fit its type. -/
def Filter.coerce (f : Filter) : Except Problem Param :=
  let unfit := Problem.coercion f.value f.valueType.name
  match f.valueType with
  | .string => .ok <| match f.operation with
    | .oneOf => .textArray (Param.splitList f.value)
    | .like => .text (Param.escapeLike f.value)
    | _ => .text f.value
  | .stringList => .ok (.textArray (Param.splitList f.value))
  | .int => match IntegerRange.int64.read f.value with
    | .ok n => .ok (.int n)
    | .error _ => .error unfit
  | .float => match Double.read? f.value with
    | some x => .ok (.float x)
    | none => .error unfit
  | .bool => match Param.readBool? f.value with
    | some b => .ok (.bool b)
    | none => .error unfit

end SensorRegistry
