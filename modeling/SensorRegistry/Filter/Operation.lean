/-
Filter operations, the types of filterable values, and which operation goes with which type.
-/
import SensorRegistry.Text

namespace SensorRegistry

/-- A comparison that a filter asks for; `unknown` stands for every token without a meaning. -/
inductive Operation
  | equals
  | notEquals
  | oneOf
  | like
  | greater
  | greaterOrEqual
  | lower
  | lowerOrEqual
  | unknown
  deriving DecidableEq, Repr

/-- The declared type of a field's values. -/
inductive ValueType
  | string
  | stringList
  | int
  | float
  | bool
  deriving DecidableEq, Repr

namespace ValueType

/-- The name of the type in messages. -/
def name : ValueType → Text
  | .string => "string".toList
  | .stringList => "string list".toList
  | .int => "int".toList
  | .float => "float".toList
  | .bool => "bool".toList

/-- Whether the type's values have an order. -/
def isNumeric : ValueType → Bool
  | .int | .float => true
  | _ => false

end ValueType

namespace Operation

/-- The operations with a meaning, in the order in which messages list them. -/
def all : List Operation :=
  [.equals, .notEquals, .oneOf, .like, .greater, .greaterOrEqual, .lower, .lowerOrEqual]

/-- The token that stands for the operation in a query string. -/
def token : Operation → Text
  | .equals => "eq".toList
  | .notEquals => "ne".toList
  | .oneOf => "in".toList
  | .like => "like".toList
  | .greater => "gt".toList
  | .greaterOrEqual => "ge".toList
  | .lower => "lt".toList
  | .lowerOrEqual => "le".toList
  | .unknown => "unknown".toList

/-- The operation that a token stands for. -/
def ofToken (s : Text) : Operation := (all.find? (·.token == s)).getD .unknown

/-- The tokens with a meaning. -/
def tokens : List Text := all.map token

/-- Equality fits every type, matching and membership fit strings, order fits numbers. -/
def allows : Operation → ValueType → Bool
  | .equals, _ | .notEquals, _ => true
  | .like, t | .oneOf, t => t == .string
  | .greater, t | .greaterOrEqual, t | .lower, t | .lowerOrEqual, t => t.isNumeric
  | .unknown, _ => false

end Operation

end SensorRegistry
