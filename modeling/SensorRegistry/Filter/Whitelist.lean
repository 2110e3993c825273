/-
Whitelists: the fields that an endpoint lets requests filter and order by, and the reading of a
query string against one.

A request carries its filters as `filters=field:op:value`. Each such token yields one filter or one
problem; the request is accepted when no token and no order parameter has a problem.
-/
import SensorRegistry.Filter.Group

namespace SensorRegistry

/-- The filterable fields with the types of their values, and the orderable fields. -/
structure Whitelist where
  fields : List (Text × ValueType)
  orderable : List Text
  deriving DecidableEq

namespace Whitelist

def empty : Whitelist := ⟨[], []⟩

/-- Declares a filterable field; the last declaration of a field counts. -/
def filter (w : Whitelist) (field : Text) (valueType : ValueType) : Whitelist :=
  { w with fields := (field, valueType) :: w.fields }

/-- Declares orderable fields. -/
def allowOrder (w : Whitelist) (fields : List Text) : Whitelist :=
  { w with orderable := w.orderable ++ fields }

/-- The declared type of a filterable field. -/
def type? (w : Whitelist) (field : Text) : Option ValueType := w.fields.lookup field

/-- The names of the filterable fields, as messages list them. -/
def fieldNames (w : Whitelist) : List Text := Text.sorted (w.fields.map (·.1))

/-- The filter that a token `field:op:value` asks for, or the first problem with it. -/
def readToken (w : Whitelist) (token : Text) : Except Problem Filter :=
  match token.splitOn ':' with
  | [field, operation, raw] =>
    match QueryString.decodeValue? raw with
    | none => .error (.invalidValue raw)
    | some value =>
      match w.type? field with
      | none => .error (.unknownField field w.fieldNames)
      | some valueType =>
        let op := Operation.ofToken operation
        if op = .unknown then .error (.unknownOperation operation Operation.tokens)
        else if op.allows valueType then .ok ⟨field, op, value, valueType⟩
        else .error (.operationNotAllowed operation valueType.name)
  | _ => .error (.malformed token)

/-- The filter tokens of a query string, in request order. -/
def tokens (query : Text) : List Text := QueryString.literals "filters".toList query

/-- What becomes of each filter token of a query string. -/
def outcomes (w : Whitelist) (query : Text) : List (Except Problem Filter) :=
  (tokens query).map w.readToken

/-- The problems of a query string: those of the tokens, then those of the order. -/
def problems (w : Whitelist) (query : Text) : List Problem :=
  Outcomes.failures (w.outcomes query) ++ (OrderRequest.read w.orderable query).2

/-- Reads the filters and the order of a query string. -/
def parse (w : Whitelist) (query : Option Text) : Except (List Problem) FilterGroup :=
  let query := query.getD []
  let order := (OrderRequest.read w.orderable query).1
  Problem.check (w.problems query)
    (FilterGroup.make (Outcomes.values (w.outcomes query)) order.field order.direction)

end Whitelist

end SensorRegistry
