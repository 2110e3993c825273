/-
Settings of paging: limits, names of parameters and headers, and how a query string resolves to a
page.

A setting that makes no sense is ignored, whatever the order of the settings: limits must be
positive, the least one below the greatest, and names not empty.
-/
import SensorRegistry.Page
import SensorRegistry.QueryString
import SensorRegistry.Text.Blank
import SensorRegistry.Number.Integer

namespace SensorRegistry

/-- How an endpoint pages its lists. -/
structure PageOptions where
  maxLimit : Int
  minLimit : Int
  defaultLimit : Int
  limitName : Text
  offsetName : Text
  totalName : Text
  linkHeader : Bool
  pageHeaders : Bool
  headerStem : Text
  deriving DecidableEq

namespace PageOptions

/-- The settings of an endpoint that chooses none. -/
def standard : PageOptions where
  maxLimit := 100
  minLimit := 10
  defaultLimit := 20
  limitName := "limit".toList
  offsetName := "offset".toList
  totalName := "total".toList
  linkHeader := true
  pageHeaders := false
  headerStem := "Pagination".toList

/-! ## Settings -/

/-- One setting. -/
inductive Setting
  | maxLimit (n : Int)
  | minLimit (n : Int)
  | defaultLimit (n : Int)
  | limitName (name : Text)
  | offsetName (name : Text)
  | totalName (name : Text)
  | linkHeader (on : Bool)
  | pageHeaders (on : Bool)
  | headerStem (stem : Text)
  deriving DecidableEq

/-- The options with one more setting. Names of parameters lose the blanks at their ends. -/
def set (o : PageOptions) : Setting → PageOptions
  | .maxLimit n => if 0 < n then { o with maxLimit := n } else o
  | .minLimit n => if 0 < n ∧ n < o.maxLimit then { o with minLimit := n } else o
  | .defaultLimit n => if 0 < n then { o with defaultLimit := n } else o
  | .limitName name => if name.isEmpty then o else { o with limitName := Text.trim name }
  | .offsetName name => if name.isEmpty then o else { o with offsetName := Text.trim name }
  | .totalName name => if name.isEmpty then o else { o with totalName := name }
  | .linkHeader on => { o with linkHeader := on }
  | .pageHeaders on => { o with pageHeaders := on }
  | .headerStem stem => if stem.isEmpty then o else { o with headerStem := stem }

/-- The standard options with settings applied in order. -/
def ofSettings (settings : List Setting) : PageOptions := settings.foldl set standard

/-! ## Resolution -/

/-- Whether requests with the method are paged. -/
def appliesTo (method : Text) : Bool :=
  Text.sameIgnoringCase method "GET".toList || Text.sameIgnoringCase method "POST".toList

/-- The limit within the bounds. -/
def clamp (o : PageOptions) (limit : Int) : Int :=
  if o.maxLimit ≤ limit then o.maxLimit
  else if limit ≤ o.minLimit then o.minLimit
  else limit

/-- The number that a query string gives a parameter, if the first value is one. -/
def number? (name query : Text) : Option Int :=
  (QueryString.first? name query).bind fun value => (IntegerRange.int64.read value).toOption

/-- The page that a query string asks for. Anything unusable gives the default. -/
def resolve (o : PageOptions) (query : Option Text) : Page :=
  let query := query.getD []
  let limit := ((number? o.limitName query).map o.clamp).getD o.defaultLimit
  let offset := max ((number? o.offsetName query).getD 0) 0
  .unknownTotal offset limit

end PageOptions

end SensorRegistry
