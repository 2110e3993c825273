/-
The state of one list request: its filters, its page, and the headers recorded for its response.

Names of headers are registered first; a value is recorded only under a registered name, in the
spelling of the registration, ASCII case ignored.
-/
import SensorRegistry.Fields
import SensorRegistry.Page
import SensorRegistry.Filter.Group
import SensorRegistry.Text.Blank

namespace SensorRegistry

/-- What a list request has gathered so far. `names` holds the registered header names, in lower
case with the spelling to write. -/
structure Scope where
  filter : Option FilterGroup
  page : Option Page
  names : List (Text × Text)
  headers : List (Text × Text)
  deriving DecidableEq

namespace Scope

def empty : Scope := ⟨none, none, [], []⟩

def withFilter (s : Scope) (group : FilterGroup) : Scope := { s with filter := some group }

def withPage (s : Scope) (page : Page) : Scope := { s with page := some page }

/-- The form of a header name that registrations are found by. -/
def key (name : Text) : Text := Text.lower (Text.trim name)

/-- Registers a header name; a blank one is ignored, and the last spelling counts. -/
def register (s : Scope) (name : Text) : Scope :=
  if (Text.trim name).isEmpty then s
  else { s with names := (key name, Text.trim name) :: s.names }

/-- The spelling under which a name is registered. -/
def spelling? (s : Scope) (name : Text) : Option Text := s.names.lookup (key name)

/-- Records a header value. Nothing happens, and the answer is no, if the value is blank or the
name is not registered. -/
def setHeader (s : Scope) (name value : Text) : Bool × Scope :=
  match s.spelling? name with
  | none => (false, s)
  | some spelled =>
    if (Text.trim value).isEmpty then (false, s)
    else (true, { s with headers := Fields.put spelled (Text.trim value) s.headers })

/-- The header that carries the number of rows. -/
def totalHeader : Text := "Total".toList

/-- Records the number of rows, on the page and as a header. -/
def recordTotal (s : Scope) (total : Int) : Scope :=
  let counted : Scope := { s with page := s.page.map (·.withTotal total) }
  (counted.setHeader totalHeader (Text.ofInt total)).2

end Scope

end SensorRegistry
