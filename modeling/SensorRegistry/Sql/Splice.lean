/-
Splicing a condition or an order into a finished statement.

A splice is a plan: a list of pieces, each a span of the statement or new text. The pieces are
trimmed and joined by single spaces. A new condition goes in front of the statement's own one, or
behind its first table; a new order replaces the leading key, or stands where the clause belongs.
With a JOIN and no WHERE the first table is still the one directly behind FROM, so such a statement
should carry a condition of its own, as should one whose table has an alias.
-/
import SensorRegistry.Text.Blank
import SensorRegistry.Sql.Scan

namespace SensorRegistry

/-- What makes a statement unfit as a template. -/
inductive TemplateFault
  | missingFrom (template : Text)
  deriving DecidableEq

def TemplateFault.message : TemplateFault → Text
  | .missingFrom template => "FROM not found in query: ".toList ++ template

namespace Sql

/-! ## Spans -/

/-- The text behind the first `n` bytes. -/
def dropBytes : Nat → Text → Text
  | _, [] => []
  | 0, c :: rest => c :: rest
  | n + 1, c :: rest => dropBytes (n + 1 - c.utf8Size) rest

/-- The text of the first `n` bytes. -/
def takeBytes : Nat → Text → Text
  | _, [] => []
  | 0, _ :: _ => []
  | n + 1, c :: rest => c :: takeBytes (n + 1 - c.utf8Size) rest

/-- The bytes from `start` up to `stop` of a text. -/
structure Span where
  start : Nat
  stop : Nat
  deriving DecidableEq, Repr

def Span.text (span : Span) (s : Text) : Text :=
  takeBytes (span.stop - span.start) (dropBytes span.start s)

/-- The statement without blanks at its end and without the semicolon there. -/
def body (s : Text) : Text :=
  let t := Text.trimEnd s
  if t.getLast? = some ';' then Text.trimEnd t.dropLast else t

/-- Where the body of the statement ends. -/
def bodyEnd (s : Text) : Nat := Text.byteSize (body s)

/-! ## Pieces -/

/-- A piece of the new statement: a span of the old one, as it is or in parentheses, or new text. -/
inductive Piece
  | kept (span : Span)
  | grouped (span : Span)
  | added (text : Text)
  deriving DecidableEq

def Piece.text (s : Text) : Piece → Text
  | .kept span => span.text s
  | .grouped span => '(' :: Text.trim (span.text s) ++ [')']
  | .added text => text

/-- Appends a part behind a space; a part that starts with `;` or `,` is attached. -/
def attach (out part : Text) : Text :=
  if out.isEmpty ∨ part.head? = some ';' ∨ part.head? = some ',' then out ++ part
  else out ++ ' ' :: part

/-- The parts trimmed, the empty ones left out, the others joined. -/
def joinParts (parts : List Text) : Text :=
  ((parts.map Text.trim).filter (! ·.isEmpty)).foldl attach []

/-- The statement that a plan makes of `s`. -/
def assemble (s : Text) (plan : List Piece) : Text := joinParts (plan.map (·.text s))

/-! ## Conditions -/

/-- The clauses that end a condition. -/
def whereTerminators : List Text :=
  ["GROUP BY", "HAVING", "WINDOW", "ORDER BY", "LIMIT", "OFFSET", "FETCH", "FOR", "UNION",
    "INTERSECT", "EXCEPT", "RETURNING"].map String.toList

/-- The clauses that may follow an order. -/
def orderTerminators : List Text := ["LIMIT", "OFFSET", "FETCH", "FOR"].map String.toList

/-- The end of what begins at `start`: the first of the terminators, else the end of the body. -/
def clauseEnd (s : Text) (terminators : List Text) (start : Nat) : Nat :=
  max ((findFirstOf s terminators start).getD (bodyEnd s)) start

/-- The span of the statement's own condition. -/
def conditionSpan? (s : Text) : Option Span :=
  (findTopLevel s "WHERE".toList 0).map fun pos =>
    let start := pos + "WHERE".length
    ⟨start, clauseEnd s whereTerminators start⟩

/-- The bytes of the table behind FROM: up to a space or a semicolon outside parentheses. -/
def tableSize (depth : Int) : Text → Nat
  | [] => 0
  | c :: rest =>
    if (c = ' ' ∨ c = ';') ∧ depth = 0 then 0
    else
      let depth := if c = '(' then depth + 1 else if c = ')' then depth - 1 else depth
      c.utf8Size + tableSize depth rest

/-- Where the table ends that stands at `start` behind any spaces. -/
def tableEnd (s : Text) (start : Nat) : Nat :=
  let rest := dropBytes start s
  start + Text.byteSize (rest.takeWhile (· == ' ')) + tableSize 0 (rest.dropWhile (· == ' '))

/-- Whether a condition binds less tightly than AND. -/
def isDisjunction (condition : Text) : Bool := (findTopLevel condition "OR".toList 0).isSome

/-- The plan that adds a condition to a statement. -/
def wherePlan (s fragment : Text) : Except TemplateFault (List Piece) :=
  match conditionSpan? s with
  | some span =>
    let own := if isDisjunction (Text.trim (span.text s)) then Piece.grouped span else .kept span
    .ok [.kept ⟨0, span.start⟩, .added fragment, .added "AND".toList, own,
      .kept ⟨span.stop, Text.byteSize s⟩]
  | none =>
    match findTopLevel s "FROM".toList 0 with
    | none => .error (.missingFrom s)
    | some pos =>
      let stop := tableEnd s (pos + "FROM".length)
      .ok [.kept ⟨0, stop⟩, .added "WHERE".toList, .added fragment,
        .kept ⟨stop, Text.byteSize s⟩]

/-- Adds a condition to a statement; an empty one changes nothing. -/
def insertWhere (s fragment : Text) : Except TemplateFault Text :=
  if fragment.isEmpty then .ok s else (wherePlan s fragment).map (assemble s)

/-! ## Order -/

/-- The plan that makes a key the leading one of a statement's order. -/
def orderPlan (s key : Text) : List Piece :=
  match findTopLevel s "ORDER BY".toList 0 with
  | some pos =>
    let start := pos + "ORDER BY".length
    let stop := clauseEnd s orderTerminators start
    let keyEnd := ((findTopLevel s [','] start).filter (· < stop)).getD stop
    [.kept ⟨0, start⟩, .added key, .kept ⟨keyEnd, Text.byteSize s⟩]
  | none =>
    let pos := (findFirstOf s orderTerminators 0).getD (bodyEnd s)
    [.kept ⟨0, pos⟩, .added "ORDER BY".toList, .added key, .kept ⟨pos, Text.byteSize s⟩]

/-- Makes a key the leading one of a statement's order; an empty one changes nothing. -/
def insertOrder (s key : Text) : Text :=
  if key.isEmpty then s else assemble s (orderPlan s key)

end Sql

end SensorRegistry
