/-
A pool of connections to a database: opened with one connection, asked for a sign of life, closed.
-/
import SensorRegistry.Store.Exchange

namespace SensorRegistry

/-- A pool with the number of its open connections. -/
structure Pool where
  database : Database
  size : Nat
  closed : Bool

namespace Pool

/-- Opens a pool that may hold `capacity` connections, given what becomes of the first one. A pool
without capacity waits for a connection in vain. -/
def connect (capacity : Nat) (connection : Except DatabaseFault Database) :
    Except DatabaseFault Pool :=
  if capacity = 0 then .error .poolTimedOut
  else connection.map fun database => ⟨database, 1, false⟩

def pingCommand : Command := ⟨"SELECT 1".toList, []⟩

/-- Asks the database for a sign of life: the commands sent and the outcome. -/
def ping (p : Pool) : List Command × Except DatabaseFault Unit :=
  if p.closed then ([], .error .poolClosed)
  else ([pingCommand], (p.database.execute pingCommand).map fun _ => ())

def close (p : Pool) : Pool := { p with size := 0, closed := true }

end Pool

end SensorRegistry
