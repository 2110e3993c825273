/-
From a filter group to the text of a condition and of an order.

Only columns that the query maps appear in the text, each compared with a placeholder; the values
travel as parameters. Filters on fields without a column are skipped.
-/
import SensorRegistry.Sql.Param
import SensorRegistry.Sql.Placeholder

namespace SensorRegistry

/-- The columns of a query by exposed field: those it filters by and those it orders by. -/
structure Columns where
  filters : List (Text × Text)
  orders : List (Text × Text)
  deriving DecidableEq

namespace Columns

def empty : Columns := ⟨[], []⟩

/-- Maps a field to the column that filters use; the last mapping of a field counts. -/
def filter (c : Columns) (field column : Text) : Columns :=
  { c with filters := (field, column) :: c.filters }

/-- Maps a field to the column that orders use. -/
def order (c : Columns) (field column : Text) : Columns :=
  { c with orders := (field, column) :: c.orders }

def filterColumn? (c : Columns) (field : Text) : Option Text := c.filters.lookup field

def orderColumn? (c : Columns) (field : Text) : Option Text := c.orders.lookup field

end Columns

/-! ## Conditions -/

/-- A condition with the parameters of its placeholders. -/
structure Condition where
  sql : Text
  params : List Param
  deriving DecidableEq

namespace Condition

/-- The comparison of a column with a placeholder. The negation also holds of missing values. -/
def predicate? (column : Text) (operation : Operation) (index : Nat) : Option Text :=
  let value := Placeholder.write index
  match operation with
  | .equals => some (column ++ "=".toList ++ value)
  | .notEquals =>
    some ("(NOT ".toList ++ column ++ "=".toList ++ value ++ " OR ".toList ++ column
      ++ " IS NULL)".toList)
  | .like => some (column ++ " ILIKE '%' || ".toList ++ value ++ " || '%' ESCAPE '\\'".toList)
  | .oneOf => some (column ++ " = ANY(".toList ++ value ++ ")".toList)
  | .greater => some (column ++ " > ".toList ++ value)
  | .greaterOrEqual => some (column ++ " >= ".toList ++ value)
  | .lower => some (column ++ " < ".toList ++ value)
  | .lowerOrEqual => some (column ++ " <= ".toList ++ value)
  | .unknown => none

/-- The comparison and the parameter of one filter. A value that does not fit is reported before an
operation without meaning. -/
def term (column : Text) (f : Filter) (index : Nat) : Except Problem (Text × Param) :=
  match f.coerce with
  | .error e => .error e
  | .ok param =>
    match predicate? column f.operation index with
    | some sql => .ok (sql, param)
    | none => .error (.unknownOperation f.operation.token Operation.tokens)

/-- The filters of a group that have a column, with it, in order. -/
def mapped (columns : Columns) (group : FilterGroup) : List (Text × Filter) :=
  group.filters.filterMap fun f => (columns.filterColumn? f.field).map fun column => (column, f)

/-- What becomes of each mapped filter, placeholders numbered after `last`. The numbers have no bound; they fit 64 bits
as long as `last` and the number of mapped filters add up to less than 2^64. -/
def terms (columns : Columns) (group : FilterGroup) (last : Nat) :
    List (Except Problem (Text × Param)) :=
  (mapped columns group).mapIdx fun i (column, f) => term column f (last + i + 1)

/-- The condition of a group, or every problem with its values. -/
def ofGroup (columns : Columns) (group : FilterGroup) (last : Nat) :
    Except (List Problem) Condition :=
  let outcomes := terms columns group last
  let parts := Outcomes.values outcomes
  Problem.check (Outcomes.failures outcomes)
    ⟨Text.join " AND " (parts.map (·.1)), parts.map (·.2)⟩

end Condition

/-- The key that a group orders by, if its order field has a column. -/
def FilterGroup.orderKey? (group : FilterGroup) (columns : Columns) : Option Text := do
  let column ← columns.orderColumn? (← group.order)
  return column ++ ' ' :: group.direction.sql

end SensorRegistry
