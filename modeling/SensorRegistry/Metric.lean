/-
Metrics: readings of sensors, kept by the registry and shown on request.
-/
import SensorRegistry.Json

namespace SensorRegistry

/-- One reading, with its time in Unix seconds. -/
structure Metric where
  sensorId : Text
  value : Single
  unit : Text
  timestamp : Int
  deriving DecidableEq

/-- The reading as responses show it. -/
def Metric.toJson (m : Metric) : Json :=
  .record [("sensorId", .text m.sensorId), ("value", .single m.value), ("unit", .text m.unit),
    ("timestamp", .integer m.timestamp)]

end SensorRegistry
