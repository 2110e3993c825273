/-
Why the service refuses a request, and the response that says so.

A fault of the client is described to it. Of a fault of the service the client learns nothing but
that there is one.
-/
import SensorRegistry.Http.Message
import SensorRegistry.Store.Fault

namespace SensorRegistry

/-- Why a request is refused. -/
inductive ApiFault
  | notFound (message : Text)
  | validation (problems : List Problem)
  | badRequest (message : Text)
  | conflict (message : Text)
  | internal (message : Text)
  deriving DecidableEq

namespace ApiFault

def ofQueryFault : QueryFault → ApiFault
  | .request problems => .validation problems
  | .template fault => .internal fault.message

def ofStoreFault (fault : StoreFault) : ApiFault :=
  match fault with
  | .notFound .. => .notFound fault.message
  | .conflict .. => .conflict fault.message
  | .constraint message => .badRequest message
  | .query fault => ofQueryFault fault
  | .database _ => .internal fault.message

def status : ApiFault → Status
  | .notFound _ => .notFound
  | .validation _ => .badRequest
  | .badRequest _ => .badRequest
  | .conflict _ => .conflict
  | .internal _ => .internalServerError

/-- What the client is told. -/
def detail : ApiFault → Text
  | .notFound message => message
  | .validation _ => "validation failed".toList
  | .badRequest message => message
  | .conflict message => message
  | .internal _ => "Internal server error".toList

/-- The problems with the parameters of the request, one text each. -/
def problems : ApiFault → List Text
  | .validation problems => problems.map (·.message)
  | _ => []

/-- The record that describes the fault. Without problems it has no list of them. -/
def toJson (f : ApiFault) : Json :=
  .record ([("status", .integer f.status.code), ("title", .text f.status.reason),
      ("detail", .text f.detail)]
    ++ if f.problems.isEmpty then [] else [("errors", .array (f.problems.map .text))])

def response (f : ApiFault) : Response := .ofJson f.status f.toJson

end ApiFault

end SensorRegistry
