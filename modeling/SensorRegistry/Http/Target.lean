/-
Targets of requests: a path with an optional query, behind a scheme and an authority if the target
is absolute. A fragment plays no part.
-/
import SensorRegistry.Text

namespace SensorRegistry

/-- The parts of a target, still percent-encoded. -/
structure Target where
  authority : Option Text
  path : Text
  query : Option Text
  deriving DecidableEq

namespace Target

/-- What follows the scheme of an absolute target. -/
def afterScheme? : Text → Option Text
  | [] => none
  | ':' :: '/' :: '/' :: rest => some rest
  | _ :: rest => afterScheme? rest

/-- A path and a query around the first `?`. -/
def splitQuery (s : Text) : Text × Option Text :=
  match Text.cut '?' s with
  | some (path, query) => (path, some query)
  | none => (s, none)

/-- The target of a path with a query. -/
def relative (s : Text) : Target := ⟨none, (splitQuery s).1, (splitQuery s).2⟩

/-- The target of an authority with a path and a query. The empty path is the root. -/
def absolute (s : Text) : Target :=
  let isAuthorityChar := fun c => c != '/' && c != '?'
  let (path, query) := splitQuery (s.dropWhile isAuthorityChar)
  ⟨some (s.takeWhile isAuthorityChar), if path.isEmpty then ['/'] else path, query⟩

/-- Reads a target. -/
def ofText (s : Text) : Target :=
  let s := s.takeWhile (· != '#')
  if s.head? = some '/' then relative s
  else
    match afterScheme? s with
    | some rest => absolute rest
    | none => relative s

end Target

end SensorRegistry
