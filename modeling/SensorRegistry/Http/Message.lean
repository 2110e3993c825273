/-
Requests to the service and its responses.
-/
import SensorRegistry.Json
import SensorRegistry.Http.MediaType
import SensorRegistry.Http.Target

namespace SensorRegistry

/-- A request as it arrives. -/
structure Request where
  method : Text
  target : Target
  headers : List (Text × Text)
  body : Text
  deriving DecidableEq

namespace Request

/-- The host that a request is addressed to: that of its first `Host` header, unless this has other
than visible ASCII characters, else that of its target. -/
def host? (r : Request) : Option Text :=
  ((Header.first? "host".toList r.headers).filter (·.all Header.isVisible)).or r.target.authority

/-- Whether the first `Content-Type` header announces JSON. -/
def hasJson (r : Request) : Bool :=
  match Header.first? "content-type".toList r.headers with
  | none => false
  | some value => value.all Header.isVisible && (MediaType.read? value).any MediaType.isJson

end Request

/-! ## Responses -/

/-- The outcomes that responses state. -/
inductive Status
  | ok
  | created
  | noContent
  | badRequest
  | notFound
  | methodNotAllowed
  | conflict
  | internalServerError
  deriving DecidableEq, Repr

namespace Status

def code : Status → Nat
  | .ok => 200
  | .created => 201
  | .noContent => 204
  | .badRequest => 400
  | .notFound => 404
  | .methodNotAllowed => 405
  | .conflict => 409
  | .internalServerError => 500

def reason : Status → Text
  | .ok => "OK".toList
  | .created => "Created".toList
  | .noContent => "No Content".toList
  | .badRequest => "Bad Request".toList
  | .notFound => "Not Found".toList
  | .methodNotAllowed => "Method Not Allowed".toList
  | .conflict => "Conflict".toList
  | .internalServerError => "Internal Server Error".toList

end Status

inductive Body
  | empty
  | text (s : Text)
  | json (j : Json)

/-- A response; the names of its headers are in lower case. -/
structure Response where
  status : Status
  headers : List (Text × Text)
  body : Body

namespace Response

/-- A response without a body. -/
def bare (status : Status) : Response := ⟨status, [], .empty⟩

def contentType (value : String) : Text × Text := ("content-type".toList, value.toList)

def ofText (status : Status) (s : Text) : Response :=
  ⟨status, [contentType "text/plain; charset=utf-8"], .text s⟩

def ofJson (status : Status) (j : Json) : Response :=
  ⟨status, [contentType "application/json"], .json j⟩

def withHeaders (r : Response) (headers : List (Text × Text)) : Response :=
  { r with headers := r.headers ++ headers }

def withoutBody (r : Response) : Response := { r with body := .empty }

end Response

end SensorRegistry
