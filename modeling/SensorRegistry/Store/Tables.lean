/-
The tables of the registry: sensors, which can be listed, created, replaced and deleted, and
metrics, which can be listed.
-/
import SensorRegistry.Store.Listing

namespace SensorRegistry

namespace SensorTable

/-- The name of the resource in messages. -/
def resource : Text := "sensor".toList

/-- The template of the list query. -/
def listTemplate : Text :=
  ("\n    SELECT id, type, alias, rate, max_threshold, min_threshold, updated_at"
    ++ "\n    FROM devices;").toList

/-- The columns that list requests filter and order by. -/
def columns : Columns where
  filters := ["id", "type", "alias"].map fun name => (name.toList, name.toList)
  orders :=
    [("id", "id"), ("type", "type"), ("alias", "alias"), ("updatedAt", "updated_at")].map
      fun (field, column) => (field.toList, column.toList)

def insertText : Text :=
  ("\n    INSERT INTO devices (id, type, alias, rate, max_threshold, min_threshold, updated_at)"
    ++ "\n    VALUES ($1, $2, $3, $4, $5, $6, $7);").toList

def replaceText : Text :=
  ("\n    UPDATE devices"
    ++ "\n    SET type=$2, alias=$3, rate=$4, max_threshold=$5, min_threshold=$6, updated_at=$7"
    ++ "\n    WHERE id=$1;").toList

def deleteText : Text := "\n    DELETE FROM devices\n    WHERE id=$1;".toList

/-- The command that writes a whole row. -/
def writeCommand (sql : Text) (s : Sensor) : Command :=
  ⟨sql, [.param (.text s.id), .param (.text s.type), .param (.text s.label), .int4 s.rate,
    .float4 s.maxThreshold, .float4 s.minThreshold, .moment s.updatedAt]⟩

/-- Sends a command about the row `id`, and says how many rows it touched. -/
def send (db : Database) (command : Command) (id : Text) : Exchange Nat :=
  ⟨[command], (db.execute command).mapError (StoreFault.ofWrite · resource id)⟩

/-- An operation on an existing row fails if it touches none. -/
def requireRow (id : Text) (e : Exchange Nat) : Exchange Unit :=
  ⟨e.sent, e.result.bind fun touched =>
    if touched = 0 then .error (.notFound resource id) else .ok ()⟩

/-- Adds a sensor as of the moment `now`. -/
def create (db : Database) (now : Int) (draft : SensorDraft) : Exchange Sensor :=
  let row : Sensor := ⟨draft, now⟩
  (send db (writeCommand insertText row) row.id).map fun _ => row

/-- Overwrites every field of an existing sensor. -/
def replace (db : Database) (now : Int) (draft : SensorDraft) : Exchange Sensor :=
  let row : Sensor := ⟨draft, now⟩
  (requireRow row.id (send db (writeCommand replaceText row) row.id)).map fun _ => row

/-- Removes an existing sensor. -/
def delete (db : Database) (id : Text) : Exchange Unit :=
  requireRow id (send db ⟨deleteText, [.param (.text id)]⟩ id)

/-- The sensors that a scope selects. -/
def list (db : Database) (scope : Scope) : Scope × Exchange (List Sensor) :=
  Listing.run db.count db.sensors listTemplate columns scope

end SensorTable

namespace MetricTable

/-- The template of the list query. -/
def listTemplate : Text :=
  "\n    SELECT sensor_id, value, unit, timestamp\n    FROM metrics;".toList

/-- The columns that list requests filter and order by. -/
def columns : Columns where
  filters := [("sensorId", "sensor_id"), ("timestamp", "timestamp")].map
    fun (field, column) => (field.toList, column.toList)
  orders := ["value", "timestamp"].map fun name => (name.toList, name.toList)

/-- The metrics that a scope selects. -/
def list (db : Database) (scope : Scope) : Scope × Exchange (List Metric) :=
  Listing.run db.count db.metrics listTemplate columns scope

end MetricTable

end SensorRegistry
