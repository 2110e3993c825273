/-
Filters and filter groups: what a request selects and in which order, by exposed names only.
-/
import SensorRegistry.Filter.Operation
import SensorRegistry.Filter.Order

namespace SensorRegistry

/-- One condition on an exposed field. -/
structure Filter where
  field : Text
  operation : Operation
  value : Text
  valueType : ValueType
  deriving DecidableEq

/-- The filters and the order of one request. A group without an order field may still carry a
direction. -/
structure FilterGroup where
  filters : List Filter
  order : Option Text
  direction : Direction
  deriving DecidableEq

namespace FilterGroup

/-- The group that selects everything. -/
def empty : FilterGroup := ⟨[], none, .ascending⟩

/-- A group; an empty order field counts as none. -/
def make (filters : List Filter) (order : Option Text) (direction : Direction) : FilterGroup :=
  ⟨filters, order.filter (! ·.isEmpty), direction⟩

end FilterGroup

end SensorRegistry
