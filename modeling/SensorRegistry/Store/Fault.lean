/-
What can go wrong between the registry and its database, and who is to blame.

A write that breaks a constraint is the client's fault: a key that exists already, a missing value,
a reference to nothing. Everything else that a database reports is the server's.
-/
import SensorRegistry.Sql.Statement

namespace SensorRegistry

/-- A failure of the database or of the way to it. Only the database itself gives a state code; a failure on the
way that has no constructor of its own is known by its text. -/
inductive DatabaseFault
  | noRow
  | rejected (code : Option Text) (message : Text)
  | undecodable
  | poolTimedOut
  | poolClosed
  | other (message : Text)
  deriving DecidableEq

namespace DatabaseFault

def message : DatabaseFault → Text
  | .noRow =>
    "no rows returned by a query that expected to return at least one row".toList
  | .rejected _ message => "error returned from database: ".toList ++ message
  | .undecodable => "error occurred while decoding a column".toList
  | .poolTimedOut => "pool timed out while waiting for an open connection".toList
  | .poolClosed => "attempted to acquire a connection on a closed pool".toList
  | .other message => message

/-- The state code that the database gives. -/
def code? : DatabaseFault → Option Text
  | .rejected code _ => code
  | _ => none

end DatabaseFault

/-- A failure of an operation of the store. -/
inductive StoreFault
  | notFound (resource id : Text)
  | conflict (resource id : Text)
  | constraint (message : Text)
  | query (fault : QueryFault)
  | database (fault : DatabaseFault)
  deriving DecidableEq

namespace StoreFault

def message : StoreFault → Text
  | .notFound resource id => resource ++ " with id ".toList ++ id ++ " not found".toList
  | .conflict resource id => resource ++ " with id ".toList ++ id ++ " already exists".toList
  | .constraint message => "Constraint violation: ".toList ++ message
  | .query fault => fault.message
  | .database fault => "Database error: ".toList ++ fault.message

/-- The code for a key that exists already. -/
def uniqueViolation : Text := "23505".toList

/-- The code for a missing value. -/
def notNullViolation : Text := "23502".toList

/-- The code for a reference to nothing. -/
def foreignKeyViolation : Text := "23503".toList

/-- The failure of a write to the row `id`. -/
def ofWrite (fault : DatabaseFault) (resource id : Text) : StoreFault :=
  if fault.code? = some uniqueViolation then .conflict resource id
  else if fault.code? = some notNullViolation ∨ fault.code? = some foreignKeyViolation then
    .constraint fault.message
  else .database fault

/-- Whether the request caused the failure. -/
def isClientFault : StoreFault → Bool
  | .notFound .. | .conflict .. | .constraint _ => true
  | .query fault => fault.isClientFault
  | .database _ => false

end StoreFault

end SensorRegistry
