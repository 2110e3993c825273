/-
Statements: a text with the parameters of its placeholders, and what a list query does with one,
which is to filter and order it, to count its rows and to take one page of them.
-/
import SensorRegistry.Sql.Where
import SensorRegistry.Sql.Splice
import SensorRegistry.Page

namespace SensorRegistry

/-- Why a filter group cannot be applied: the request is at fault, or the template is. -/
inductive QueryFault
  | request (problems : List Problem)
  | template (fault : TemplateFault)
  deriving DecidableEq

namespace QueryFault

def message : QueryFault → Text
  | .request problems => Problem.report problems
  | .template fault => "Malformed query template: ".toList ++ fault.message

/-- Whether the client can mend the request. -/
def isClientFault : QueryFault → Bool
  | .request _ => true
  | .template _ => false

end QueryFault

/-- A statement with the parameters bound to `$1`, `$2`, … -/
structure Statement where
  sql : Text
  params : List Param
  deriving DecidableEq

namespace Statement

/-- A statement without parameters. -/
def ofText (sql : Text) : Statement := ⟨sql, []⟩

/-- Puts a condition, unless it is empty, and an order key, if there is one, into a template. -/
def splice (template : Text) (condition : Text) (key : Option Text) : Except TemplateFault Text :=
  (Sql.insertWhere (Text.normalize template) condition).map fun sql =>
    match key with
    | some key => Sql.insertOrder sql key
    | none => sql

/-- Applies the filters and the order of a group. New placeholders continue after the highest one
of the text, and their values follow the parameters. -/
def applyFilter (s : Statement) (group : FilterGroup) (columns : Columns) :
    Except QueryFault Statement :=
  match Condition.ofGroup columns group (Placeholder.last s.sql) with
  | .error problems => .error (.request problems)
  | .ok condition =>
    match splice s.sql condition.sql (group.orderKey? columns) with
    | .error fault => .error (.template fault)
    | .ok sql => .ok ⟨sql, s.params ++ condition.params⟩

/-- The statement text without blanks at its ends and without its semicolon. -/
def inner (sql : Text) : Text := Sql.body (Text.trimStart sql)

/-- The text that counts the rows of a statement. -/
def countText (sql : Text) : Text :=
  "SELECT COUNT(*) FROM (".toList ++ inner sql ++ ") AS subquery".toList

/-- The statement that counts the rows, with the same parameters. -/
def count (s : Statement) : Statement := ⟨countText s.sql, s.params⟩

/-- The text that takes one page of the rows of a statement. The numbers of its placeholders have no bound; they fit
64 bits as long as the last one of the statement is less than 2^64 - 2. -/
def pageText (sql : Text) : Text :=
  let next := Placeholder.last sql + 1
  inner sql ++ " LIMIT ".toList ++ Placeholder.write next ++ " OFFSET ".toList
    ++ Placeholder.write (next + 1) ++ ";".toList

/-- The parameters of the placeholders that paging adds. -/
def pageParams (page : Page) : List Param := [.int page.limit, .int page.offset]

/-- The statement that takes one page of the rows. -/
def paginate (s : Statement) (page : Page) : Statement :=
  ⟨pageText s.sql, s.params ++ pageParams page⟩

end Statement

end SensorRegistry
