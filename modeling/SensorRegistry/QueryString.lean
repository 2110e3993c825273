/-
Query strings: the raw text after the `?` of a request, cut at `&` into pieces.

A piece is read in one of two ways. As a form pair it is a key and a value around its first `=`,
both decoded forgivingly. As a literal parameter it is the raw text after `name=`, whose value is
decoded strictly or refused.
-/
import SensorRegistry.Text.Percent

namespace SensorRegistry.QueryString

/-- The `&`-separated pieces of a query string. -/
def pieces (query : Text) : List Text := query.splitOn '&'

/-! ## Form pairs -/

/-- The text of a form component: `+` is a space, escapes are bytes, faults become U+FFFD. -/
def formDecode (raw : Text) : Text := Text.Utf8.decode (Text.percentBytes (Text.plusToSpace raw))

/-- The key and the value of a piece; a piece without `=` has an empty value. -/
def pair (piece : Text) : Text × Text :=
  match Text.cut '=' piece with
  | some (key, value) => (formDecode key, formDecode value)
  | none => (formDecode piece, [])

/-- The form pairs of a query string, in order. -/
def pairs (query : Text) : List (Text × Text) :=
  ((pieces query).filter (! ·.isEmpty)).map pair

/-- The value of the first pair with the key. -/
def first? (key : Text) (query : Text) : Option Text := (pairs query).lookup key

/-! ## Literal parameters -/

/-- The raw texts after `name=`, in order. -/
def literals (name : Text) (query : Text) : List Text :=
  (pieces query).filterMap fun piece => (name ++ ['=']).isPrefixOf? piece

/-- The text of a literal value: `+` is a space and escapes are bytes. There is none if an escape
is broken or the bytes are no UTF-8. -/
def decodeValue? (raw : Text) : Option Text :=
  if Text.escapesClosed raw then
    Text.Utf8.decode? (Text.percentBytes (Text.plusToSpace raw))
  else none

end SensorRegistry.QueryString
