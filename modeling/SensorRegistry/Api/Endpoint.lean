/-
List endpoints: which filters and orders a list accepts, how it is paged, and the headers that its
responses carry.
-/
import SensorRegistry.Config
import SensorRegistry.Filter.Whitelist
import SensorRegistry.Http.Header
import SensorRegistry.Page.Link
import SensorRegistry.Scope

namespace SensorRegistry

/-- The parts of a list request that filters and paging depend on. -/
structure ListRequest where
  method : Text
  host : Option Text
  path : Text
  query : Option Text
  deriving DecidableEq

/-- The settings of one list; `scheme` is that of the links to its pages. -/
structure ListEndpoint where
  whitelist : Whitelist
  paging : PageOptions
  scheme : Text

namespace ListEndpoint

/-- The page that a request asks for, if its method is paged. -/
def page? (e : ListEndpoint) (r : ListRequest) : Option Page :=
  if PageOptions.appliesTo r.method then some (e.paging.resolve r.query) else none

/-- The scope of a request, with its filters and its page, or the problems with its parameters. -/
def openScope (e : ListEndpoint) (r : ListRequest) : Except (List Problem) Scope :=
  (e.whitelist.parse r.query).map fun group =>
    { (Scope.empty.withFilter group).register Scope.totalHeader with page := e.page? r }

/-- The address of the list, without a query. -/
def baseUrl (e : ListEndpoint) (r : ListRequest) : Text :=
  match r.host with
  | some host => e.scheme ++ "://".toList ++ host ++ r.path
  | none => r.path

/-- The headers of the response: those that the scope recorded, then those of its page. -/
def headers (e : ListEndpoint) (r : ListRequest) (scope : Scope) : List (Text × Text) :=
  let paging := scope.page.toList.flatMap (e.paging.responseHeaders (e.baseUrl r))
  Header.fields (scope.headers ++ paging)

/-! ## The lists of the service -/

def sensors (c : Config) : ListEndpoint where
  whitelist :=
    ((Whitelist.empty.filter "id".toList .string).filter "type".toList .string
        |>.filter "alias".toList .string).allowOrder
      (["id", "type", "alias", "updatedAt"].map String.toList)
  paging := .ofSettings [.maxLimit c.paging.sensorsMaxLimit]
  scheme := c.server.scheme

def metrics (c : Config) : ListEndpoint where
  whitelist :=
    ((Whitelist.empty.filter "sensorId".toList .string).filter "timestamp".toList .int).allowOrder
      (["value", "timestamp"].map String.toList)
  paging := .ofSettings [.maxLimit c.paging.metricsMaxLimit]
  scheme := c.server.scheme

end ListEndpoint

end SensorRegistry
