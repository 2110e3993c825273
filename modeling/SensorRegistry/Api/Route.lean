/-
Routes: the paths that the service knows, and what each method does there.
-/
import SensorRegistry.Text

namespace SensorRegistry

/-- A path of the service. `sensor` holds the last segment of its path, still percent-encoded. -/
inductive Route
  | sensors
  | metrics
  | sensor (segment : Text)
  deriving DecidableEq

/-- What a request asks for. -/
inductive Action
  | listSensors
  | createSensor
  | replaceSensor
  | deleteSensor (segment : Text)
  | listMetrics
  deriving DecidableEq

namespace Route

def sensorsPath : Text := "/api/v1/sensors".toList

def metricsPath : Text := "/api/v1/metrics".toList

/-- The route of a path, which must match to the last character. -/
def ofPath? (path : Text) : Option Route :=
  if path = sensorsPath then some .sensors
  else if path = metricsPath then some .metrics
  else
    match (sensorsPath ++ ['/']).isPrefixOf? path with
    | some segment =>
      if segment.isEmpty ∨ segment.contains '/' then none else some (.sensor segment)
    | none => none

/-- The methods of a route and what they do. -/
def actions : Route → List (Text × Action)
  | .sensors =>
    [("GET".toList, .listSensors), ("HEAD".toList, .listSensors), ("POST".toList, .createSensor),
      ("PUT".toList, .replaceSensor)]
  | .metrics => [("GET".toList, .listMetrics), ("HEAD".toList, .listMetrics)]
  | .sensor segment => [("DELETE".toList, .deleteSensor segment)]

/-- The methods of a route, as the `Allow` header lists them. -/
def allow (route : Route) : Text := Text.join "," (route.actions.map (·.1))

end Route

end SensorRegistry
