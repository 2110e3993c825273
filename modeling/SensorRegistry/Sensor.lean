/-
Sensors: what a client sends to create or replace one, what is wrong with it, and what the registry
keeps and shows.
-/
import SensorRegistry.Json
import SensorRegistry.Number.Integer
import SensorRegistry.Text.Blank
import SensorRegistry.Uuid

namespace SensorRegistry

/-- A sensor as a client describes it; requests call its label the alias. -/
structure SensorDraft where
  id : Text
  type : Text
  label : Text
  rate : Int
  maxThreshold : Single
  minThreshold : Single
  deriving DecidableEq

/-- A sensor as the registry keeps it, with the time of its last change in Unix seconds. -/
structure Sensor extends SensorDraft where
  updatedAt : Int
  deriving DecidableEq

/-- What can be wrong with a draft. -/
inductive SensorProblem
  | id (value : Text)
  | type
  | label
  deriving DecidableEq

/-- The kinds of sensors. -/
def sensorTypes : List Text := ["humidity", "temperature", "pressure"].map String.toList

namespace SensorProblem

/-- The name of the field at fault. -/
def field : SensorProblem → Text
  | .id _ => "Id".toList
  | .type => "type".toList
  | .label => "alias".toList

/-- The rule that the field breaks. -/
def code : SensorProblem → Text
  | .id _ => "uuid".toList
  | .type => "type".toList
  | .label => "alias".toList

def message : SensorProblem → Text
  | .id value => '\'' :: value ++ "' is not a valid UUID".toList
  | .type => "type must be one of ".toList ++ Text.join ", " sensorTypes
  | .label =>
    "alias must have 1 to 128 characters and no leading or trailing spaces".toList

end SensorProblem

namespace SensorDraft

/-- Whether the text is a UUID of 36 bytes. -/
def isId (s : Text) : Bool := Text.byteSize s == 36 && Uuid.isUuid s

/-- Whether the text has 1 to 128 characters and no blanks at its ends. -/
def isLabel (s : Text) : Bool := 0 < s.length && s.length ≤ 128 && Text.trim s == s

/-- The problems of a draft, at most one a field. -/
def problems (d : SensorDraft) : List SensorProblem :=
  (if isId d.id then [] else [.id d.id])
    ++ (if sensorTypes.contains d.type then [] else [.type])
    ++ (if isLabel d.label then [] else [.label])

/-- One text for all problems: their messages in ascending order. -/
def report (problems : List SensorProblem) : Text :=
  Text.join "; " ((problems.map (·.message)).mergeSort Text.ascending)

/-- The draft of a JSON value. -/
def ofJson? (j : Json) : Option SensorDraft := do
  match ← j.fields? ["Id", "type", "alias", "rate", "maxThreshold", "minThreshold"] with
  | [id, type, label, rate, maxThreshold, minThreshold] =>
    let range := IntegerRange.int32
    return ⟨← id.text?, ← type.text?, ← label.text?, ← rate.integer? range.least range.greatest,
      ← maxThreshold.single?, ← minThreshold.single?⟩
  | _ => none

end SensorDraft

/-- The sensor as responses show it. -/
def Sensor.toJson (s : Sensor) : Json :=
  .record [("Id", .text s.id), ("type", .text s.type), ("alias", .text s.label),
    ("rate", .integer s.rate), ("maxThreshold", .single s.maxThreshold),
    ("minThreshold", .single s.minThreshold), ("updatedAt", .integer s.updatedAt)]

end SensorRegistry
