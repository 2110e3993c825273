/-
The run of a list query: count the rows that the filter selects, record the total, fetch the page.

A failing step ends the run. The total is recorded before the page is fetched, and stays recorded
whatever becomes of the page.
-/
import SensorRegistry.Store.Exchange
import SensorRegistry.Scope

namespace SensorRegistry.Listing

/-- The statement of a template with the filter of a request, if there is one. -/
def filtered (template : Text) (columns : Columns) (filter : Option FilterGroup) :
    Except QueryFault Statement :=
  match filter with
  | none => .ok (.ofText template)
  | some group => (Statement.ofText template).applyFilter group columns

/-- The statement that fetches the rows: one page of them if the request is paged. -/
def pageStatement (s : Statement) (page : Option Page) : Statement :=
  match page with
  | none => s
  | some page => s.paginate page

/-- Runs a list query against the answers `count` and `rows` of a database. -/
def run (count : Statement → Except DatabaseFault Int)
    (rows : Statement → Except DatabaseFault (List α)) (template : Text) (columns : Columns)
    (scope : Scope) : Scope × Exchange (List α) :=
  match filtered template columns scope.filter with
  | .error fault => (scope, .refused (.query fault))
  | .ok s =>
    match count s.count with
    | .error fault => (scope, ⟨[.ofStatement s.count], .error (.database fault)⟩)
    | .ok total =>
      let scope := scope.recordTotal total
      let page := pageStatement s scope.page
      (scope, ⟨[.ofStatement s.count, .ofStatement page],
        (rows page).mapError .database⟩)

end SensorRegistry.Listing
