/-
The order that a request asks for: `sort=<field>` names an orderable field, `order=asc` or
`order=desc` a direction. An empty value is no value.
-/
import SensorRegistry.QueryString
import SensorRegistry.Filter.Problem

namespace SensorRegistry

/-- A direction of sorting, with the place of missing values: first ascending, last descending. -/
inductive Direction
  | ascending
  | descending
  deriving DecidableEq, Repr

namespace Direction

/-- The direction that a request writes so. -/
def ofParam? (s : Text) : Option Direction :=
  if s = "asc".toList then some .ascending
  else if s = "desc".toList then some .descending
  else none

def param : Direction → Text
  | .ascending => "asc".toList
  | .descending => "desc".toList

/-- The words of an ORDER BY key. -/
def sql : Direction → Text
  | .ascending => "ASC NULLS FIRST".toList
  | .descending => "DESC NULLS LAST".toList

end Direction

/-- The order fields that a request may name. -/
structure OrderRequest where
  field : Option Text
  direction : Direction
  deriving DecidableEq

namespace OrderRequest

/-- The first value of a parameter, empty if there is none. -/
def param (name : String) (query : Text) : Text :=
  (QueryString.first? name.toList query).getD []

/-- The field that the request sorts by, even if it is not orderable. -/
def field? (query : Text) : Option Text :=
  let field := param "sort" query
  if field.isEmpty then none else some field

/-- The direction of the request, ascending if it names none that is known. -/
def direction? (query : Text) : Direction :=
  (Direction.ofParam? (param "order" query)).getD .ascending

/-- The problem with the field: it is named and not orderable. -/
def fieldProblem? (orderable : List Text) (query : Text) : Option Problem :=
  (field? query).bind fun field =>
    if orderable.contains field then none
    else some (.orderNotAllowed field (Text.sorted orderable))

/-- The problem with the direction: it is named and unknown. -/
def directionProblem? (query : Text) : Option Problem :=
  let direction := param "order" query
  if direction.isEmpty ∨ (Direction.ofParam? direction).isSome then none
  else some (.invalidDirection direction)

/-- The order of a query string, and what is wrong with it. -/
def read (orderable : List Text) (query : Text) : OrderRequest × List Problem :=
  (⟨field? query, direction? query⟩,
    (fieldProblem? orderable query).toList ++ (directionProblem? query).toList)

end OrderRequest

end SensorRegistry
