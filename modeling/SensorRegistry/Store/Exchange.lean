/-
The registry's side of a conversation with a database: what is sent, and what comes of it.
-/
import SensorRegistry.Sensor
import SensorRegistry.Metric
import SensorRegistry.Store.Fault

namespace SensorRegistry

/-- A value sent along with a command. -/
inductive Value
  | param (p : Param)
  | int4 (n : Int)
  | float4 (x : Single)
  | moment (seconds : Int)
  deriving DecidableEq

/-- A command to the database. -/
structure Command where
  sql : Text
  values : List Value
  deriving DecidableEq

def Command.ofStatement (s : Statement) : Command := ⟨s.sql, s.params.map .param⟩

/-- A database, by its answers: the count of a statement, the rows of a statement in either table,
and the number of rows that a command touches. -/
structure Database where
  count : Statement → Except DatabaseFault Int
  sensors : Statement → Except DatabaseFault (List Sensor)
  metrics : Statement → Except DatabaseFault (List Metric)
  execute : Command → Except DatabaseFault Nat

/-- The commands sent in an operation, in order, and its result. -/
structure Exchange (α : Type) where
  sent : List Command
  result : Except StoreFault α

namespace Exchange

/-- An operation that fails before anything is sent. -/
def refused (fault : StoreFault) : Exchange α := ⟨[], .error fault⟩

def map (f : α → β) (e : Exchange α) : Exchange β := ⟨e.sent, e.result.map f⟩

end Exchange

end SensorRegistry
