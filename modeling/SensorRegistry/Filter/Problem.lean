/-
What can be wrong with the filter and order parameters of a request.

Problems are collected, never one alone: a reading either gives all its values or reports all its
problems in the order in which they were found.
-/
import SensorRegistry.Text

namespace SensorRegistry

/-- One problem with a request's filter or order parameters. -/
inductive Problem
  | malformed (token : Text)
  | invalidValue (value : Text)
  | unknownField (field : Text) (allowed : List Text)
  | unknownOperation (operation : Text) (allowed : List Text)
  | operationNotAllowed (operation : Text) (valueType : Text)
  | orderNotAllowed (field : Text) (allowed : List Text)
  | invalidDirection (direction : Text)
  | coercion (value : Text) (expected : Text)
  deriving DecidableEq

namespace Problem

/-- The sentence that tells the client about the problem. -/
def message : Problem → Text
  | .malformed token =>
    "Malformed filter string: '".toList ++ token ++ "', (correct: 'field:op:value')".toList
  | .invalidValue value => "Invalid filter value: '".toList ++ value ++ "'".toList
  | .unknownField field allowed =>
    "Unknown filter field: '".toList ++ field ++ "', fields: ".toList ++ Text.join ", " allowed
  | .unknownOperation operation allowed =>
    "Unknown filter operation: '".toList ++ operation ++ "', operations: ".toList
      ++ Text.join ", " allowed
  | .operationNotAllowed operation valueType =>
    "Operation: '".toList ++ operation ++ "' not allowed for filter type '".toList ++ valueType
      ++ "'".toList
  | .orderNotAllowed field allowed =>
    "Field: '".toList ++ field ++ "' not allowed for ordering. Fields: ".toList
      ++ Text.join ", " allowed
  | .invalidDirection direction =>
    "order can only be 'asc' or 'desc', got '".toList ++ direction ++ "'".toList
  | .coercion value expected =>
    "error parsing ".toList ++ expected ++ " value '".toList ++ value ++ "'".toList

/-- All messages, one a line. -/
def report (problems : List Problem) : Text := Text.join "\n" (problems.map message)

/-- The value if there is no problem, else every problem. -/
def check (problems : List Problem) (value : α) : Except (List Problem) α :=
  if problems.isEmpty then .ok value else .error problems

end Problem

/-! ## Outcomes side by side -/

namespace Outcomes

/-- The failures of a list of outcomes, in order. -/
def failures (outcomes : List (Except ε α)) : List ε :=
  outcomes.filterMap fun
    | .error e => some e
    | .ok _ => none

/-- The values of a list of outcomes, in order. -/
def values (outcomes : List (Except ε α)) : List α :=
  outcomes.filterMap fun
    | .error _ => none
    | .ok a => some a

end Outcomes

end SensorRegistry
