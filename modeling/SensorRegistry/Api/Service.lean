/-
The service: from a request to the commands that the database gets and to the response.

A request is checked in full before the database comes into play, so that the client hears of its
own faults even when there is no database.
-/
import SensorRegistry.Api.Endpoint
import SensorRegistry.Api.Fault
import SensorRegistry.Api.Route
import SensorRegistry.Json.Reader
import SensorRegistry.Store.Tables

namespace SensorRegistry

/-- What becomes of a request: the commands sent to the database, and the response. -/
structure Reply where
  sent : List Command
  response : Response

namespace Reply

/-- A response without any command. -/
def ofResponse (response : Response) : Reply := ⟨[], response⟩

def refused (fault : ApiFault) : Reply := ofResponse fault.response

/-- The reply to an operation of the store, given the response to its success. -/
def ofExchange (e : Exchange α) (success : α → Response) : Reply :=
  ⟨e.sent,
    match e.result with
    | .ok a => success a
    | .error fault => (ApiFault.ofStoreFault fault).response⟩

def withoutBody (r : Reply) : Reply := { r with response := r.response.withoutBody }

end Reply

/-- The service with its lists and, if it has one, its database. -/
structure Service where
  sensors : ListEndpoint
  metrics : ListEndpoint
  database : Option Database

namespace Service

def ofConfig (c : Config) (database : Option Database) : Service :=
  ⟨.sensors c, .metrics c, database⟩

/-- The reply that needs the database, if there is one. -/
def withDatabase (s : Service) (reply : Database → Reply) : Reply :=
  match s.database with
  | some db => reply db
  | none => .refused (.internal "Database not configured".toList)

/-! ## Lists -/

/-- The list request in a request. A list sees the path below its own route, which is the root. -/
def listRequest (r : Request) : ListRequest := ⟨r.method, r.host?, ['/'], r.target.query⟩

/-- The reply of a list, given the query that fetches its rows. -/
def list (s : Service) (e : ListEndpoint) (query : Database → Scope → Scope × Exchange (List α))
    (toJson : α → Json) (r : ListRequest) : Reply :=
  match e.openScope r with
  | .error problems => .refused (.validation problems)
  | .ok scope => s.withDatabase fun db =>
    let (scope, exchange) := query db scope
    .ofExchange exchange fun rows =>
      (Response.ofJson .ok (.array (rows.map toJson))).withHeaders (e.headers r scope)

/-! ## Sensors -/

/-- The draft in the body of a request. Text behind the first value of the body is ignored. -/
def draft (r : Request) : Except ApiFault SensorDraft :=
  if r.hasJson = false then
    .error (.badRequest "Expected request with `Content-Type: application/json`".toList)
  else
    match (Json.readFirst? r.body).bind fun (body, _) => SensorDraft.ofJson? body with
    | none => .error (.badRequest "<bad JSON body>".toList)
    | some draft =>
      if draft.problems.isEmpty then .ok draft
      else .error (.badRequest (SensorDraft.report draft.problems))

/-- The reply to a draft, given the operation that stores it. -/
def store (s : Service) (status : Status) (write : Database → SensorDraft → Exchange Sensor)
    (r : Request) : Reply :=
  match draft r with
  | .error fault => .refused fault
  | .ok draft => s.withDatabase fun db =>
    .ofExchange (write db draft) fun row => .ofJson status row.toJson

/-- The reply to the deletion of the sensor that a path segment names. -/
def delete (s : Service) (segment : Text) : Reply :=
  match Text.Utf8.decode? (Text.percentBytes segment) with
  | none => .ofResponse (.ofText .badRequest "Invalid URL: Invalid UTF-8 in `id`".toList)
  | some id =>
    if SensorDraft.isId id then
      s.withDatabase fun db => .ofExchange (SensorTable.delete db id) fun _ => .bare .noContent
    else .refused (.ofStoreFault (.notFound SensorTable.resource id))

/-! ## Requests -/

/-- The reply to an action at the moment `now`. -/
def perform (s : Service) (now : Int) (r : Request) : Action → Reply
  | .listSensors => s.list s.sensors SensorTable.list Sensor.toJson (listRequest r)
  | .listMetrics => s.list s.metrics MetricTable.list Metric.toJson (listRequest r)
  | .createSensor => s.store .created (SensorTable.create · now ·) r
  | .replaceSensor => s.store .ok (SensorTable.replace · now ·) r
  | .deleteSensor segment => s.delete segment

/-- The reply to a request at the moment `now`. A HEAD request is answered without the body. -/
def reply (s : Service) (now : Int) (r : Request) : Reply :=
  match Route.ofPath? r.target.path with
  | none => .ofResponse (.bare .notFound)
  | some route =>
    match route.actions.lookup r.method with
    | none =>
      .ofResponse ((Response.bare .methodNotAllowed).withHeaders [("allow".toList, route.allow)])
    | some action =>
      let reply := s.perform now r action
      if r.method = "HEAD".toList then reply.withoutBody else reply

end Service

end SensorRegistry
